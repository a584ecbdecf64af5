import GroovyRounds.Compiler.Output
import GroovyRounds.Proofs.OrderedMap
import Mathlib.Data.List.Induction

/-!
# Output in pieces

What is read of a compiler's output depends on the text of each stream, not
on the pieces it arrives in or on the order in which the streams take turns
(`read_pieces`). After some pieces, the lines taken of a stream and its
unfinished line are the pieces of its text between line feeds (`Fed`); the end
of the run takes the unfinished lines, so that every line of every stream has
been taken once (`Taken`).
-/

namespace GroovyRounds

-- ---------------------------------------------------------------------------
-- Cutting a text that grows
-- ---------------------------------------------------------------------------

namespace Text

theorem dropLast_append_getLastD {α : Type} {l : List α} (h : l ≠ []) (default : α) :
    l.dropLast ++ [l.getLastD default] = l := by
  rw [List.getLastD_eq_getLast?, List.getLast?_eq_some_getLast h, Option.getD_some,
    List.dropLast_append_getLast h]

/-- More text is cut together with the last piece before it. -/
theorem splitOn_append (sep : Char) (cs more : List Char) :
    splitOn sep (cs ++ more) =
      (splitOn sep cs).dropLast ++ splitOn sep ((splitOn sep cs).getLastD [] ++ more) := by
  induction cs with
  | nil => rfl
  | cons c cs ih =>
    have hne := splitOn_ne_nil sep cs
    by_cases hc : c = sep
    · obtain ⟨piece, pieces, hcs⟩ := List.exists_cons_of_ne_nil hne
      rw [List.cons_append, splitOn, if_pos hc, ih, splitOn, if_pos hc, hcs]
      rfl
    · rw [List.cons_append, splitOn, if_neg hc, ih, splitOn, if_neg hc]
      cases hcs : splitOn sep cs with
      | nil => exact absurd hcs hne
      | cons piece pieces =>
        cases pieces with
        | nil =>
          -- The text so far is one piece, which the new character makes longer.
          change _ = splitOn sep (c :: (piece ++ more))
          rw [splitOn, if_neg hc]
          rfl
        | cons next pieces => rfl

end Text

namespace CompilerOutput

variable {ε : Type} {refuses : String → Option ε} {p q : CompilerOutput}
  {pieces pieces' : List (String × String)} {lines : List (String × List Char)}

-- ---------------------------------------------------------------------------
-- Reading a whole output
-- ---------------------------------------------------------------------------

/-- Feeds pieces of text, each with its stream, until a status is refused. -/
def feedAll (refuses : String → Option ε) :
    List (String × String) → CompilerOutput → CompilerOutput × Option ε
  | [], p => (p, none)
  | (stream, text) :: pieces, p =>
    match p.feed refuses stream text with
    | (p, some refusal) => (p, some refusal)
    | (p, none) => feedAll refuses pieces p

/-- Reads the output of a run that ends with an exit code. -/
def readAll (refuses : String → Option ε) (pieces : List (String × String)) (code : Int) :
    CompilerOutput × Option ε :=
  match initial.feedAll refuses pieces with
  | (p, some refusal) => (p, some refusal)
  | (p, none) => p.finish refuses code

/-- The elements of one stream. -/
def onStream {α : Type} (stream : String) (tagged : List (String × α)) : List α :=
  (tagged.filter (·.1 = stream)).map (·.2)

/-- The whole text of a stream. -/
def textOf (stream : String) (pieces : List (String × String)) : List Char :=
  (onStream stream pieces).flatMap String.toList

-- ---------------------------------------------------------------------------
-- What lines report
-- ---------------------------------------------------------------------------

namespace Report

def items : Report → List OutputItem
  | .compiled item => item.toList
  | _ => []

def diagnostics : Report → List Message
  | .diagnostic message => [message]
  | _ => []

def statuses : Report → List String
  | .status text => [text]
  | _ => []

def isNoGroovy : Report → Bool
  | .noGroovy => true
  | _ => false

def isPlain : Report → Bool
  | .plain => true
  | _ => false

end Report

/-- A line without the carriage returns at its end. -/
def bare (line : List Char) : List Char :=
  Text.trimRight (· = '\r') line

def lineReport (line : List Char) : Report :=
  readLine (bare line)

/-- The lines that are kept as error output. -/
def keptLines (lines : List (List Char)) : List (List Char) :=
  (lines.filter fun line => (lineReport line).isPlain).map bare

def asksRetry (line : List Char) : Bool :=
  retryTriggers.any fun word => hasInfix word line

/-- The compiled units that a text reports, in their order. -/
def itemsIn (text : List Char) : List OutputItem :=
  (Text.lines text).flatMap fun line => (lineReport line).items

def diagnosticsIn (text : List Char) : List Message :=
  (Text.lines text).flatMap fun line => (lineReport line).diagnostics

def statusesIn (text : List Char) : List String :=
  (Text.lines text).flatMap fun line => (lineReport line).statuses

/-- A list made of one list for each stream, each in its own order. -/
def Interleaves {α : Type} (part : String → List α) (whole : List α) : Prop :=
  ∃ tagged : List (String × α),
    tagged.map (·.2) = whole ∧ ∀ stream, onStream stream tagged = part stream

-- ---------------------------------------------------------------------------
-- Elements of streams
-- ---------------------------------------------------------------------------

section Streams

variable {α β : Type} {stream : String} {tagged more : List (String × α)}

@[simp] theorem onStream_nil : onStream stream ([] : List (String × α)) = [] := rfl

@[simp] theorem onStream_append :
    onStream stream (tagged ++ more) = onStream stream tagged ++ onStream stream more := by
  simp [onStream]

theorem onStream_cons (one : String × α) :
    onStream stream (one :: tagged) =
      if one.1 = stream then one.2 :: onStream stream tagged else onStream stream tagged := by
  by_cases h : one.1 = stream <;> simp [onStream, h]

/-- Elements that are all of one stream. -/
theorem onStream_map_same (elements : List α) (other : String) :
    onStream stream (elements.map (other, ·)) = if other = stream then elements else [] := by
  induction elements with
  | nil => simp
  | cons element elements ih =>
    rw [List.map_cons, onStream_cons, ih]
    by_cases h : other = stream <;> simp [h]

theorem onStream_flatMap (f : α → List β) :
    onStream stream (tagged.flatMap fun one => (f one.2).map (one.1, ·)) =
      (onStream stream tagged).flatMap f := by
  induction tagged with
  | nil => rfl
  | cons one tagged ih =>
    rw [List.flatMap_cons, onStream_append, onStream_map_same, ih, onStream_cons]
    by_cases h : one.1 = stream <;> simp [h]

theorem mem_onStream {element : α} :
    element ∈ onStream stream tagged ↔ (stream, element) ∈ tagged := by
  simp [onStream]

/-- A list without elements of other streams. -/
theorem eq_map_onStream (h : ∀ other, other ≠ stream → onStream other tagged = []) :
    tagged = (onStream stream tagged).map (stream, ·) := by
  induction tagged with
  | nil => rfl
  | cons one tagged ih =>
    have hone : one.1 = stream := by
      by_contra hne
      have hnil := h one.1 hne
      rw [onStream_cons, if_pos rfl] at hnil
      cases hnil
    have hrest : ∀ other, other ≠ stream → onStream other tagged = [] := by
      intro other hne
      have hnil := h other hne
      rwa [onStream_cons, if_neg (hone.trans_ne hne.symm)] at hnil
    rw [onStream_cons, if_pos hone, List.map_cons, ← ih hrest, ← hone]

theorem interleaves_flatMap (f : α → List β) {part : String → List α}
    (h : ∀ stream, onStream stream tagged = part stream) :
    Interleaves (fun stream => (part stream).flatMap f) (tagged.flatMap fun one => f one.2) := by
  refine ⟨tagged.flatMap fun one => (f one.2).map (one.1, ·), ?_, fun stream => ?_⟩
  · simp [List.map_flatMap, Function.comp_def]
  · rw [onStream_flatMap, h]

end Streams

-- ---------------------------------------------------------------------------
-- Lines taken one after another
-- ---------------------------------------------------------------------------

/-- Takes a line of a stream; a status is heard. -/
def hear (p : CompilerOutput) (line : String × List Char) : CompilerOutput :=
  p.take line.1 (bare line.2) (lineReport line.2)

def hearAll (lines : List (String × List Char)) (p : CompilerOutput) : CompilerOutput :=
  lines.foldl hear p

/-- All that lines of streams do. -/
theorem hearAll_eq (lines : List (String × List Char)) (p : CompilerOutput) :
    p.hearAll lines =
      { p with
        compiled := p.compiled ++ lines.flatMap fun line => (lineReport line.2).items
        diagnostics := p.diagnostics ++ lines.flatMap fun line => (lineReport line.2).diagnostics
        statuses := p.statuses ++ lines.flatMap fun line => (lineReport line.2).statuses
        errorLines := p.errorLines ++ keptLines (onStream errorStream lines)
        noGroovy := p.noGroovy || lines.any fun line => (lineReport line.2).isNoGroovy
        shouldRetry :=
          p.shouldRetry || (keptLines (onStream errorStream lines)).any asksRetry } := by
  induction lines generalizing p with
  | nil => simp [hearAll, keptLines]
  | cons line lines ih =>
    change (p.hear line).hearAll lines = _
    rw [ih, hear]
    by_cases hstream : line.1 = errorStream <;> cases hreport : lineReport line.2 <;>
      simp [take, hreport, hstream, onStream_cons, keptLines, asksRetry, Report.items,
        Report.diagnostics, Report.statuses, Report.isNoGroovy, Report.isPlain, Bool.or_assoc]

theorem hearAll_append (more : List (String × List Char)) :
    p.hearAll (lines ++ more) = (p.hearAll lines).hearAll more :=
  List.foldl_append

/-- Unfinished lines play no part. -/
theorem hearAll_pending (lines : List (String × List Char))
    (pending : OrderedMap String (List Char)) :
    { p with pending := pending }.hearAll lines = { p.hearAll lines with pending := pending } := by
  simp only [hearAll_eq]

theorem pending_hearAll (lines : List (String × List Char)) :
    (p.hearAll lines).pending = p.pending := by
  rw [hearAll_eq]

section Willing

variable (hrefuses : ∀ text, refuses text = none)

include hrefuses

theorem takeLine_eq (stream : String) (line : List Char) :
    p.takeLine refuses stream line = (p.hear (stream, line), none) := by
  rw [takeLine, hear, lineReport, bare]
  cases readLine (Text.trimRight (· = '\r') line) <;> simp [hrefuses]

theorem takeLines_eq (stream : String) (taken : List (List Char)) (p : CompilerOutput) :
    p.takeLines refuses stream taken = (p.hearAll (taken.map (stream, ·)), none) := by
  induction taken generalizing p with
  | nil => rfl
  | cons line taken ih =>
    rw [takeLines, takeLine_eq hrefuses]
    exact ih _

end Willing

-- ---------------------------------------------------------------------------
-- While pieces arrive
-- ---------------------------------------------------------------------------

/-- The streams with an unfinished line, which may be empty, in the order they came up. -/
def streamsOf (pieces : List (String × String)) : List String :=
  pieces.foldl (fun streams piece =>
    if piece.1 ∈ streams then streams else streams ++ [piece.1]) initial.pending.keys

theorem streamsOf_append (stream text : String) :
    streamsOf (pieces ++ [(stream, text)]) =
      if stream ∈ streamsOf pieces then streamsOf pieces else streamsOf pieces ++ [stream] := by
  rw [streamsOf, List.foldl_append]
  rfl

/-- What pieces have come to: the lines taken so far, of all streams, in the order taken. -/
structure Fed (pieces : List (String × String)) (lines : List (String × List Char))
    (p : CompilerOutput) : Prop where
  /-- The lines were taken, and nothing else happened but to the unfinished lines. -/
  state : p = { initial.hearAll lines with pending := p.pending }
  keys : p.pending.keys = streamsOf pieces
  nodup : p.pending.keys.Nodup
  /-- The unfinished line of a stream is the last piece of its text. -/
  onStream : ∀ stream, onStream stream lines ++ [(p.pending.find? stream).getD []] =
    Text.splitOn '\n' (textOf stream pieces)

theorem Fed.initial : Fed [] [] initial where
  state := rfl
  keys := rfl
  nodup := by decide
  onStream := by
    intro stream
    have hempty : (CompilerOutput.initial.pending.find? stream).getD [] = [] := by
      rw [OrderedMap.find?, CompilerOutput.initial, List.lookup_cons]
      split
      · rfl
      · rw [List.lookup_cons]
        split <;> rfl
    rw [hempty]
    rfl

section Willing

variable (hrefuses : ∀ text, refuses text = none)

include hrefuses

theorem feed_eq (stream text : String) (p : CompilerOutput) :
    p.feed refuses stream text =
      let cut := Text.splitOn '\n' ((p.pending.find? stream).getD [] ++ text.toList)
      ((p.setPending stream (cut.getLastD [])).hearAll (cut.dropLast.map (stream, ·)), none) := by
  rw [feed, takeLines_eq hrefuses]

/-- One piece: its stream's text is cut further, and nothing changes on the others. -/
theorem Fed.feed (h : Fed pieces lines p) (stream text : String) :
    ∃ more q, p.feed refuses stream text = (q, none) ∧
      Fed (pieces ++ [(stream, text)]) (lines ++ more) q := by
  obtain ⟨cut, hcut⟩ : ∃ cut,
      Text.splitOn '\n' ((p.pending.find? stream).getD [] ++ text.toList) = cut := ⟨_, rfl⟩
  have hpending : ((p.setPending stream (cut.getLastD [])).hearAll
      (cut.dropLast.map (stream, ·))).pending = p.pending.insert stream (cut.getLastD []) :=
    pending_hearAll _
  refine ⟨cut.dropLast.map (stream, ·), _, by rw [feed_eq hrefuses, hcut], ?_, ?_, ?_, ?_⟩
  · rw [hpending, setPending, h.state, hearAll_pending, hearAll_pending, hearAll_append]
  · rw [hpending, OrderedMap.keys_insert, h.keys, streamsOf_append]
  · rw [hpending]
    exact OrderedMap.nodup_keys_insert h.nodup
  · intro other
    rw [hpending, onStream_append, onStream_map_same, OrderedMap.find?_insert, textOf,
      onStream_append, List.flatMap_append, onStream_cons]
    by_cases hother : other = stream
    · subst hother
      have htext := h.onStream other
      rw [if_pos rfl, if_pos rfl, if_pos rfl, Option.getD_some, List.append_assoc,
        Text.dropLast_append_getLastD (hcut ▸ Text.splitOn_ne_nil _ _), onStream_nil,
        List.flatMap_singleton, ← textOf, Text.splitOn_append, ← htext, List.dropLast_concat,
        ← hcut]
      simp
    · rw [if_neg (Ne.symm hother), if_neg hother, if_neg (Ne.symm hother), onStream_nil,
        List.flatMap_nil, List.append_nil, List.append_nil]
      exact h.onStream other

/-- Many pieces, one after another. -/
theorem Fed.feedAll (h : Fed pieces lines p) (more : List (String × String)) :
    ∃ lines q, p.feedAll refuses more = (q, none) ∧ Fed (pieces ++ more) lines q := by
  induction more generalizing pieces lines p with
  | nil => exact ⟨lines, p, rfl, by rwa [List.append_nil]⟩
  | cons piece more ih =>
    obtain ⟨stream, text⟩ := piece
    obtain ⟨taken, q, hfeed, hq⟩ := h.feed hrefuses stream text
    obtain ⟨lines', r, hrest, hr⟩ := ih hq
    refine ⟨lines', r, by simp only [CompilerOutput.feedAll, hfeed, hrest], ?_⟩
    rwa [List.append_assoc] at hr

end Willing

-- ---------------------------------------------------------------------------
-- The end of a run
-- ---------------------------------------------------------------------------

/-- The unfinished lines that hold any text. -/
def unfinished (entries : List (String × List Char)) : List (String × List Char) :=
  entries.filter fun entry => !entry.2.isEmpty

theorem onStream_unfinished {stream : String} (h : p.pending.keys.Nodup) :
    onStream stream (unfinished p.pending.entries) =
      [(p.pending.find? stream).getD []].filter fun rest => !rest.isEmpty := by
  generalize p.pending = pending at h
  obtain ⟨entries⟩ := pending
  simp only [OrderedMap.keys, OrderedMap.find?] at h ⊢
  induction entries with
  | nil => rfl
  | cons entry entries ih =>
    obtain ⟨key, rest⟩ := entry
    rw [List.map_cons, List.nodup_cons] at h
    have hrest := ih h.2
    by_cases hkey : key = stream
    · subst hkey
      have hnone : entries.lookup key = none := by
        rw [List.lookup_eq_none_iff]
        intro entry hentry
        have hne : key ≠ entry.1 := by
          rintro rfl
          exact h.1 (List.mem_map.mpr ⟨entry, hentry, rfl⟩)
        simpa using hne
      rw [hnone] at hrest
      rw [List.lookup_cons_self]
      cases rest with
      | nil => exact hrest
      | cons c rest => simpa [unfinished, onStream_cons] using hrest
    · have hne : (stream == key) = false := by simpa using Ne.symm hkey
      rw [List.lookup_cons, hne]
      cases rest with
      | nil => exact hrest
      | cons c rest => simpa [unfinished, onStream_cons, hkey] using hrest

/-- What a whole run has come to: every line of every stream was taken once. -/
structure Taken (pieces : List (String × String)) (code : Int) (lines : List (String × List Char))
    (p : CompilerOutput) : Prop where
  state : p = { initial.hearAll lines with
    pending := ⟨(streamsOf pieces).map (·, [])⟩
    exitCode := some code }
  onStream : ∀ stream, onStream stream lines = Text.lines (textOf stream pieces)

section Willing

variable (hrefuses : ∀ text, refuses text = none)

include hrefuses

/-- The streams before `entries` have been dealt with. -/
theorem flush_eq (front : List (String × List Char)) {entries : List (String × List Char)}
    (hp : p.pending.entries = front ++ entries) (hnodup : p.pending.keys.Nodup) :
    p.flush refuses entries =
      ({ p.hearAll (unfinished entries) with
          pending := ⟨front ++ entries.map fun entry => (entry.1, [])⟩ }, none) := by
  induction entries generalizing front p with
  | nil =>
    have hpending : p.pending = ⟨front⟩ := by
      rw [List.append_nil] at hp
      rw [← hp]
    simp only [flush, unfinished, List.filter_nil, hearAll, List.foldl_nil, List.map_nil,
      List.append_nil, ← hpending]
  | cons entry entries ih =>
    obtain ⟨stream, rest⟩ := entry
    rw [flush]
    split
    · rename_i hrest
      obtain rfl : rest = [] := by simpa using hrest
      have hfront : p.pending.entries = (front ++ [(stream, [])]) ++ entries := by simp [hp]
      rw [ih _ hfront hnodup]
      simp [unfinished]
    · rename_i hrest
      have hnew : stream ∉ front.map (·.1) := by
        rw [OrderedMap.keys, hp, List.map_append, List.nodup_append] at hnodup
        intro hmem
        exact hnodup.2.2 stream hmem stream List.mem_cons_self rfl
      have hpending : (p.hear (stream, rest)).pending = p.pending :=
        pending_hearAll [(stream, rest)]
      have hentries : (((p.hear (stream, rest)).setPending stream []).pending).entries =
          (front ++ [(stream, [])]) ++ entries := by
        simp [setPending, hpending, OrderedMap.insert, hp, OrderedMap.insertEntry_append_cons hnew]
      have hkeys : ((p.hear (stream, rest)).setPending stream []).pending.keys.Nodup := by
        rw [setPending, hpending]
        exact OrderedMap.nodup_keys_insert hnodup
      rw [takeLine_eq hrefuses]
      simp only
      rw [ih _ hentries hkeys, setPending, hearAll_pending]
      have hhead : unfinished ((stream, rest) :: entries) =
          (stream, rest) :: unfinished entries := by
        simp [unfinished, hrest]
      rw [hhead, List.map_cons, List.append_assoc]
      rfl

/-- The unfinished lines are taken at the end, so that no line of a stream is missing. -/
theorem Fed.finish (h : Fed pieces lines p) (code : Int) :
    ∃ taken q, p.finish refuses code = (q, none) ∧ Taken pieces code taken q := by
  have hblank : p.pending.entries.map (fun entry => (entry.1, ([] : List Char))) =
      (streamsOf pieces).map (·, []) := by
    rw [← h.keys, OrderedMap.keys, List.map_map]
    rfl
  have hflush := flush_eq hrefuses [] rfl h.nodup
  rw [List.nil_append, hblank] at hflush
  refine ⟨lines ++ unfinished p.pending.entries,
    { p.hearAll (unfinished p.pending.entries) with
      pending := ⟨(streamsOf pieces).map (·, [])⟩
      exitCode := some code }, ?_, ?_, fun stream => ?_⟩
  · rw [CompilerOutput.finish, hflush]
  · generalize unfinished p.pending.entries = last
    rw [h.state, hearAll_pending, hearAll_append]
  · rw [onStream_append, onStream_unfinished h.nodup, Text.lines, ← h.onStream stream]
    generalize (p.pending.find? stream).getD [] = rest
    cases rest with
    | nil => simp
    | cons c rest => simp

/-- Reading a whole output takes every line of every stream once. -/
theorem taken_readAll (pieces : List (String × String)) (code : Int) :
    ∃ lines p, readAll refuses pieces code = (p, none) ∧ Taken pieces code lines p := by
  obtain ⟨lines, p, hfeed, hp⟩ := Fed.initial.feedAll hrefuses pieces
  obtain ⟨taken, q, hfinish, hq⟩ := hp.finish hrefuses code
  exact ⟨taken, q, by simp only [readAll, hfeed, hfinish], hq⟩

end Willing

-- ---------------------------------------------------------------------------
-- What is left of a run
-- ---------------------------------------------------------------------------

namespace Taken

variable {code : Int} {lines' : List (String × List Char)}

theorem errorLines_eq (h : Taken pieces code lines p) :
    p.errorLines = keptLines (Text.lines (textOf errorStream pieces)) := by
  rw [h.state, hearAll_eq, ← h.onStream]
  rfl

theorem shouldRetry_eq (h : Taken pieces code lines p) :
    p.shouldRetry = (keptLines (Text.lines (textOf errorStream pieces))).any asksRetry := by
  rw [h.state, hearAll_eq, ← h.onStream]
  rfl

theorem exitCode_eq (h : Taken pieces code lines p) : p.exitCode = some code := by
  rw [h.state]

/-- The runtime is missing if a line of any stream says so. -/
theorem noGroovy_iff (h : Taken pieces code lines p) :
    p.noGroovy = true ↔
      ∃ stream, ∃ line ∈ Text.lines (textOf stream pieces),
        (lineReport line).isNoGroovy = true := by
  rw [h.state, hearAll_eq]
  simp only [← h.onStream, mem_onStream, initial, Bool.false_or, List.any_eq_true, Prod.exists]

theorem interleaves_compiled (h : Taken pieces code lines p) :
    Interleaves (fun stream => itemsIn (textOf stream pieces)) p.compiled := by
  have hlines := interleaves_flatMap (fun line => (lineReport line).items) h.onStream
  rwa [h.state, hearAll_eq]

theorem interleaves_diagnostics (h : Taken pieces code lines p) :
    Interleaves (fun stream => diagnosticsIn (textOf stream pieces)) p.diagnostics := by
  have hlines := interleaves_flatMap (fun line => (lineReport line).diagnostics) h.onStream
  rwa [h.state, hearAll_eq]

theorem interleaves_statuses (h : Taken pieces code lines p) :
    Interleaves (fun stream => statusesIn (textOf stream pieces)) p.statuses := by
  have hlines := interleaves_flatMap (fun line => (lineReport line).statuses) h.onStream
  rwa [h.state, hearAll_eq]

/-- With a single stream the lines are taken in the order of its text. -/
theorem eq_of_sole {stream : String} (h : Taken pieces code lines p)
    (hsole : ∀ piece ∈ pieces, piece.1 = stream) :
    lines = (Text.lines (textOf stream pieces)).map (stream, ·) := by
  rw [← h.onStream]
  refine eq_map_onStream fun other hother => ?_
  have hempty : CompilerOutput.onStream other pieces = [] := by
    refine List.eq_nil_iff_forall_not_mem.mpr fun text htext => hother ?_
    exact hsole _ (mem_onStream.mp htext)
  rw [h.onStream, textOf, hempty]
  rfl

end Taken

/-- Pieces of one stream open at most that stream. -/
theorem streamsOf_sole {stream : String} (h : ∀ piece ∈ pieces, piece.1 = stream) :
    streamsOf pieces =
      if stream ∈ initial.pending.keys ∨ pieces = [] then initial.pending.keys
      else initial.pending.keys ++ [stream] := by
  induction pieces using List.reverseRecOn with
  | nil => simp [streamsOf]
  | append_singleton pieces piece ih =>
    obtain ⟨other, text⟩ := piece
    obtain rfl : other = stream := h (other, text) (by simp)
    rw [streamsOf_append, ih fun piece hpiece => h piece (List.mem_append_left _ hpiece)]
    by_cases hknown : other ∈ initial.pending.keys
    · simp [hknown]
    · by_cases hnil : pieces = [] <;> simp [hknown, hnil]

/-- What is read does not depend on how the text arrives. Two ways for the same texts to come,
in any pieces and with the streams taking turns in any way, leave the same error output, the
same flags and the same exit code, and lists made of the same list for each stream. A single
stream leaves the same state, up to the empty unfinished lines of other streams than the
standard ones. -/
theorem read_pieces (hrefuses : ∀ text, refuses text = none) (code : Int)
    (htexts : ∀ stream, textOf stream pieces = textOf stream pieces') :
    ∃ p q, readAll refuses pieces code = (p, none) ∧ readAll refuses pieces' code = (q, none) ∧
      p.errorLines = q.errorLines ∧ p.errorText = q.errorText ∧
      p.shouldRetry = q.shouldRetry ∧ p.noGroovy = q.noGroovy ∧
      p.exitCode = some code ∧ q.exitCode = some code ∧
      (∀ result ∈ [p, q],
        Interleaves (fun stream => itemsIn (textOf stream pieces)) result.compiled ∧
        Interleaves (fun stream => diagnosticsIn (textOf stream pieces)) result.diagnostics ∧
        Interleaves (fun stream => statusesIn (textOf stream pieces)) result.statuses) ∧
      ∀ stream, (∀ piece ∈ pieces ++ pieces', piece.1 = stream) →
        { p with pending := q.pending } = q ∧
        (stream ∈ initial.pending.keys ∨ (pieces = [] ↔ pieces' = []) → p = q) := by
  obtain ⟨lines, p, hread, hp⟩ := taken_readAll hrefuses pieces code
  obtain ⟨lines', q, hread', hq⟩ := taken_readAll hrefuses pieces' code
  have hsame : (fun stream => textOf stream pieces') = fun stream => textOf stream pieces :=
    funext fun stream => (htexts stream).symm
  have herrors : p.errorLines = q.errorLines := by
    rw [hp.errorLines_eq, hq.errorLines_eq, htexts]
  refine ⟨p, q, hread, hread', herrors, by rw [errorText, errorText, herrors], ?_, ?_,
    hp.exitCode_eq, hq.exitCode_eq, ?_, fun stream hsole => ?_⟩
  · rw [hp.shouldRetry_eq, hq.shouldRetry_eq, htexts]
  · rw [Bool.eq_iff_iff, hp.noGroovy_iff, hq.noGroovy_iff]
    simp only [htexts]
  · intro result hresult
    rw [List.mem_cons, List.mem_singleton] at hresult
    simp only [htexts]
    rcases hresult with rfl | rfl
    · simp only [← htexts]
      exact ⟨hp.interleaves_compiled, hp.interleaves_diagnostics, hp.interleaves_statuses⟩
    · exact ⟨hq.interleaves_compiled, hq.interleaves_diagnostics, hq.interleaves_statuses⟩
  · have hpieces : ∀ piece ∈ pieces, piece.1 = stream := fun piece hpiece =>
      hsole piece (List.mem_append_left _ hpiece)
    have hpieces' : ∀ piece ∈ pieces', piece.1 = stream := fun piece hpiece =>
      hsole piece (List.mem_append_right _ hpiece)
    have hlines : lines = lines' := by
      rw [hp.eq_of_sole hpieces, hq.eq_of_sole hpieces', htexts]
    refine ⟨by rw [hp.state, hq.state, hlines], fun hopen => ?_⟩
    have hstreams : streamsOf pieces = streamsOf pieces' := by
      rw [streamsOf_sole hpieces, streamsOf_sole hpieces']
      rcases hopen with hknown | hnil
      · simp [hknown]
      · simp [hnil]
    rw [hp.state, hq.state, hlines, hstreams]

/-- An error line and a marker line, each in one piece. -/
def wholePieces : List (String × String) :=
  [(errorStream, "unable to resolve class B"),
    (outputStream, "%%compiled\tA.class\tA.groovy\r\n")]

/-- The same two lines: cut in a marker, in a word and in a line end, and taking turns. -/
def cutPieces : List (String × String) :=
  [(outputStream, "%%comp"), (errorStream, "unable to res"),
    (outputStream, "iled\tA.class\tA.groovy\r"), (errorStream, "olve class B"),
    (outputStream, "\n")]

theorem read_pieces_cut :
    (∀ stream, textOf stream wholePieces = textOf stream cutPieces) ∧
      ∃ p q, readAll (fun _ => (none : Option Unit)) wholePieces 1 = (p, none) ∧
        readAll (fun _ => (none : Option Unit)) cutPieces 1 = (q, none) ∧
        p.errorText = q.errorText ∧ p.shouldRetry = q.shouldRetry ∧
        Interleaves (fun stream => itemsIn (textOf stream wholePieces)) p.compiled ∧
        Interleaves (fun stream => itemsIn (textOf stream wholePieces)) q.compiled := by
  have htexts : ∀ stream, textOf stream wholePieces = textOf stream cutPieces := by
    intro stream
    simp only [textOf, wholePieces, cutPieces, onStream_cons, onStream_nil]
    by_cases hout : outputStream = stream
    · subst hout
      decide +kernel
    · by_cases herr : errorStream = stream
      · subst herr
        decide +kernel
      · simp [hout, herr]
  obtain ⟨p, q, hp, hq, -, htext, hretry, -, -, -, hlists, -⟩ :=
    read_pieces (fun _ => rfl) 1 htexts
  exact ⟨htexts, p, q, hp, hq, htext, hretry, (hlists p (by simp)).1, (hlists q (by simp)).1⟩

end CompilerOutput

end GroovyRounds
