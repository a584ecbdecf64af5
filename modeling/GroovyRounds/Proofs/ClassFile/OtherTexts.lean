import GroovyRounds.Proofs.ClassFile.Layout
import GroovyRounds.Proofs.ClassFile.ModifiedUtf8

/-!
# Texts that are not the name

What two class files have in common when they differ in texts only, and not in
the text of the name. The reader makes a text of every entry, so each of them
takes part in what comes out: if all are texts, both files have the same name,
and a legal constant with a surrogate that has no partner costs the file its
name (`className_otherTexts`).
-/

namespace GroovyRounds.ClassFile

-- ---------------------------------------------------------------------------
-- Legal texts
-- ---------------------------------------------------------------------------

/-- Any 16 bit units as a class file holds them. -/
def encodeUnits (us : List UInt16) : List UInt8 :=
  us.flatMap fun u => ModifiedUtf8.encodeUnit u.toNat

/-- The bytes hold 16 bit units. -/
def IsLegal (raw : List UInt8) : Prop :=
  ∃ us, raw = encodeUnits us

/-- The bytes hold the units of some characters. -/
def IsText (raw : List UInt8) : Prop :=
  ∃ cs, raw = ModifiedUtf8.encode cs

/-- Of legal bytes, only those of a text can be decoded. -/
theorem isSome_decode_iff {raw : List UInt8} (hlegal : IsLegal raw) :
    (ModifiedUtf8.decode raw).isSome ↔ IsText raw := by
  obtain ⟨us, rfl⟩ := hlegal
  have hlt : ∀ n ∈ us.map UInt16.toNat, n < 0x10000 := by
    rw [List.forall_mem_map]
    exact fun u _ => u.toNat_lt
  have hunits : encodeUnits us = (us.map UInt16.toNat).flatMap ModifiedUtf8.encodeUnit := by
    rw [encodeUnits, List.flatMap_map]
  rw [Option.isSome_iff_exists]
  refine exists_congr fun cs => ?_
  constructor
  · intro hdecode
    rw [hunits, ModifiedUtf8.decode_encodeUnits hlt,
      ModifiedUtf8.joinPairs_eq_some_iff hlt] at hdecode
    rw [hunits, hdecode, ModifiedUtf8.encode_eq]
  · intro htext
    rw [htext, ModifiedUtf8.decode_encode]

namespace Pool

variable {pool : Pool} {slot : Nat}

theorem isSome_enter_iff {e : Entry} :
    (pool.enter? slot e).isSome ↔ ∀ raw, e = .text raw → (ModifiedUtf8.decode raw).isSome := by
  cases e with
  | text raw => simp [enter?]
  | fixed tag payload =>
    rw [enter?]
    cases (Entry.fixed tag payload).nameSlot? <;> simp

/-- Entries can be entered if all texts among them can be decoded. -/
theorem isSome_enterAll_iff {es : List Entry} :
    (pool.enterAll? slot es).isSome ↔
      ∀ raw, .text raw ∈ es → (ModifiedUtf8.decode raw).isSome := by
  induction es generalizing pool slot with
  | nil => simp [enterAll?]
  | cons e es ih =>
    have hfirst : (pool.enter? slot e).isSome ↔
        ∀ raw, e = .text raw → (ModifiedUtf8.decode raw).isSome := isSome_enter_iff
    simp only [enterAll?, List.mem_cons, or_imp, forall_and, eq_comm (b := e)]
    rw [← hfirst]
    cases pool.enter? slot e with
    | none => simp
    | some next =>
      rw [Option.bind_some, ih]
      simp

end Pool

-- ---------------------------------------------------------------------------
-- Two files
-- ---------------------------------------------------------------------------

/-- The entries from a slot on differ in texts only, and not in the one in slot `kept`. -/
inductive TextsDiffer (kept : Nat) : Nat → List Entry → List Entry → Prop
  | nil {slot : Nat} : TextsDiffer kept slot [] []
  | same {slot : Nat} {e : Entry} {es fs : List Entry} :
    TextsDiffer kept (slot + e.width) es fs → TextsDiffer kept slot (e :: es) (e :: fs)
  | text {slot : Nat} {raw raw' : List UInt8} {es fs : List Entry} :
    slot ≠ kept → TextsDiffer kept (slot + 1) es fs →
      TextsDiffer kept slot (.text raw :: es) (.text raw' :: fs)

/-- The pools hold the same classes, and the same text in the slot. -/
def Pool.AgreeOn (p q : Pool) (slot : Nat) : Prop :=
  p.classes = q.classes ∧ p.texts.lookup slot = q.texts.lookup slot

namespace Pool.AgreeOn

variable {p q p' q' : Pool} {slot kept : Nat}

theorem enter (hagree : p.AgreeOn q kept) {e : Entry} (hp : p.enter? slot e = some p')
    (hq : q.enter? slot e = some q') : p'.AgreeOn q' kept := by
  obtain ⟨hclasses, htexts⟩ := hagree
  cases e with
  | text raw =>
    obtain ⟨text, hdecode, rfl⟩ := Option.map_eq_some_iff.mp hp
    obtain ⟨text', hdecode', rfl⟩ := Option.map_eq_some_iff.mp hq
    obtain rfl : text = text' := Option.some.inj (hdecode.symm.trans hdecode')
    exact ⟨hclasses, by rw [List.lookup_cons, List.lookup_cons, htexts]⟩
  | fixed tag payload =>
    cases hname : (Entry.fixed tag payload).nameSlot? with
    | some name =>
      simp only [enter?, hname, Option.some.injEq] at hp hq
      subst hp hq
      exact ⟨congrArg ((slot, name) :: ·) hclasses, htexts⟩
    | none =>
      simp only [enter?, hname, Option.some.injEq] at hp hq
      subst hp hq
      exact ⟨hclasses, htexts⟩

theorem enter_text (hagree : p.AgreeOn q kept) (hne : slot ≠ kept) {raw raw' : List UInt8}
    (hp : p.enter? slot (.text raw) = some p') (hq : q.enter? slot (.text raw') = some q') :
    p'.AgreeOn q' kept := by
  obtain ⟨htexts, -⟩ := lookup_enter_of_ne hne.symm hp
  obtain ⟨htexts', -⟩ := lookup_enter_of_ne hne.symm hq
  refine ⟨?_, htexts.trans (hagree.2.trans htexts'.symm)⟩
  obtain ⟨text, -, rfl⟩ := Option.map_eq_some_iff.mp hp
  obtain ⟨text', -, rfl⟩ := Option.map_eq_some_iff.mp hq
  exact hagree.1

end Pool.AgreeOn

/-- Texts that differ elsewhere are not seen in the slot. -/
theorem TextsDiffer.agreeOn {kept slot : Nat} {es fs : List Entry}
    (h : TextsDiffer kept slot es fs) {p q p' q' : Pool} (hagree : p.AgreeOn q kept)
    (hp : p.enterAll? slot es = some p') (hq : q.enterAll? slot fs = some q') :
    p'.AgreeOn q' kept := by
  induction h generalizing p q with
  | nil =>
    cases hp
    cases hq
    exact hagree
  | same _ ih =>
    obtain ⟨p₁, hfirst, hp⟩ := Option.bind_eq_some_iff.mp hp
    obtain ⟨q₁, hfirst', hq⟩ := Option.bind_eq_some_iff.mp hq
    exact ih (hagree.enter hfirst hfirst') hp hq
  | text hne _ ih =>
    obtain ⟨p₁, hfirst, hp⟩ := Option.bind_eq_some_iff.mp hp
    obtain ⟨q₁, hfirst', hq⟩ := Option.bind_eq_some_iff.mp hq
    exact ih (hagree.enter_text hne hfirst hfirst') hp hq

-- ---------------------------------------------------------------------------
-- Names
-- ---------------------------------------------------------------------------

namespace Layout

/-- All texts of the header hold 16 bit units. -/
def Legal (layout : Layout) : Prop :=
  ∀ raw, .text raw ∈ layout.entries → IsLegal raw

/-- All texts of the header hold characters: every surrogate has its partner. -/
def Paired (layout : Layout) : Prop :=
  ∀ raw, .text raw ∈ layout.entries → IsText raw

/-- The header's class has its name in a slot. -/
def NamedIn (layout : Layout) (slot : Nat) : Prop :=
  ∃ a b raw, HasEntry layout.entries layout.thisClass.toNat (.fixed 7 [a, b]) ∧ u16 a b = slot ∧
    HasEntry layout.entries slot (.text raw)

/-- The headers differ in texts only, and not in the one in the slot. -/
structure DiffersBut (f g : Layout) (slot : Nat) : Prop where
  minor : f.minor = g.minor
  major : f.major = g.major
  count : f.count = g.count
  entries : TextsDiffer slot 1 f.entries g.entries
  access : f.access = g.access
  thisClass : f.thisClass = g.thisClass

theorem isSome_pool_iff {layout : Layout} (hlegal : layout.Legal) :
    layout.pool?.isSome ↔ layout.Paired := by
  rw [pool?, Pool.isSome_enterAll_iff]
  exact forall₂_congr fun raw hraw => isSome_decode_iff (hlegal raw hraw)

theorem className_of_not_paired {layout : Layout} (hformed : layout.WellFormed)
    (hlegal : layout.Legal) (hpaired : ¬ layout.Paired) (rest : List UInt8) :
    className (layout.bytes ++ rest) = .error .badText := by
  rw [← isSome_pool_iff hlegal, Option.not_isSome_iff_eq_none] at hpaired
  rw [className_bytes hformed, hpaired]

/-- The class of the pool that is read has a name. -/
theorem className_pool {layout : Layout} {slot : Nat} (hnamed : layout.NamedIn slot) {pool : Pool}
    (hpool : layout.pool? = some pool) :
    ∃ text, pool.classes.lookup layout.thisClass.toNat = some slot ∧
      pool.texts.lookup slot = some text := by
  obtain ⟨a, b, raw, hclass, rfl, htext⟩ := hnamed
  obtain ⟨before, _, hentered, -, hclasses⟩ := Pool.lookup_enterAll hclass hpool
  obtain ⟨before', _, hentered', htexts, -⟩ := Pool.lookup_enterAll htext hpool
  obtain ⟨text, -, rfl⟩ := Option.map_eq_some_iff.mp hentered'
  cases hentered
  rw [List.lookup_cons_self] at hclasses htexts
  exact ⟨text, hclasses, htexts⟩

end Layout

/-- Two files whose texts are legal and differ elsewhere than in the name: both have the same name
if in both of them every surrogate has its partner, and only then. A file in which one has none is
refused, wherever it stands. -/
theorem className_otherTexts {f g : Layout} {nameSlot : Nat} (hf : f.WellFormed)
    (hg : g.WellFormed) (hlegal : f.Legal) (hlegal' : g.Legal) (hnamed : f.NamedIn nameSlot)
    (hdiffers : f.DiffersBut g nameSlot) (rest : List UInt8) :
    ((∃ name, className (f.bytes ++ rest) = .ok name ∧ className (g.bytes ++ rest) = .ok name) ↔
      f.Paired ∧ g.Paired) ∧
    (¬ f.Paired → className (f.bytes ++ rest) = .error .badText) ∧
    (¬ g.Paired → className (g.bytes ++ rest) = .error .badText) := by
  have hfbad (h : ¬ f.Paired) := Layout.className_of_not_paired hf hlegal h rest
  have hgbad (h : ¬ g.Paired) := Layout.className_of_not_paired hg hlegal' h rest
  refine ⟨⟨?_, ?_⟩, hfbad, hgbad⟩
  · rintro ⟨name, hfname, hgname⟩
    constructor
    · by_contra hpaired
      cases hfname.symm.trans (hfbad hpaired)
    · by_contra hpaired
      cases hgname.symm.trans (hgbad hpaired)
  · rintro ⟨hpaired, hpaired'⟩
    obtain ⟨p, hp⟩ := Option.isSome_iff_exists.mp ((Layout.isSome_pool_iff hlegal).mpr hpaired)
    obtain ⟨q, hq⟩ := Option.isSome_iff_exists.mp ((Layout.isSome_pool_iff hlegal').mpr hpaired')
    obtain ⟨text, hclass, htext⟩ := Layout.className_pool hnamed hp
    obtain ⟨hclasses, htexts⟩ := hdiffers.entries.agreeOn ⟨rfl, rfl⟩ hp hq
    refine ⟨String.ofList (dotted text), ?_, ?_⟩
    · simp only [Layout.className_bytes hf, hp, Pool.className, hclass, htext]
      rfl
    · simp only [Layout.className_bytes hg, hq, Pool.className, ← hdiffers.thisClass, ← hclasses,
        hclass, ← htexts, htext]
      rfl

-- ---------------------------------------------------------------------------
-- A constant with no say in the name
-- ---------------------------------------------------------------------------

/-- The class p.A with a string constant. -/
def stringLayout (us : List UInt16) : Layout where
  minor := 0
  major := 52
  count := 5
  entries := [.text [112, 47, 65], .fixed 7 [0, 1], .text (encodeUnits us), .fixed 8 [0, 3]]
  access := 0x21
  thisClass := 2

theorem stringLayout_legal (us : List UInt16) : (stringLayout us).Legal := by
  intro raw hraw
  simp only [stringLayout, List.mem_cons, Entry.text.injEq, reduceCtorEq, List.not_mem_nil,
    or_false, false_or] at hraw
  rcases hraw with rfl | rfl
  · exact ⟨[112, 47, 65], by decide⟩
  · exact ⟨us, rfl⟩

theorem stringLayout_namedIn (us : List UInt16) : (stringLayout us).NamedIn 1 :=
  ⟨0, 1, [112, 47, 65], ⟨[.text [112, 47, 65]], _, rfl, rfl⟩, rfl, ⟨[], _, rfl, rfl⟩⟩

theorem stringLayout_differsBut (us vs : List UInt16) :
    (stringLayout us).DiffersBut (stringLayout vs) 1 where
  minor := rfl
  major := rfl
  count := rfl
  entries := .same (.same (.text (by decide) (.same .nil)))
  access := rfl
  thisClass := rfl

theorem stringLayout_paired {us : List UInt16} {cs : List Char}
    (h : encodeUnits us = ModifiedUtf8.encode cs) : (stringLayout us).Paired := by
  intro raw hraw
  simp only [stringLayout, List.mem_cons, Entry.text.injEq, reduceCtorEq, List.not_mem_nil,
    or_false, false_or] at hraw
  rcases hraw with rfl | rfl
  · exact ⟨['p', '/', 'A'], by decide⟩
  · exact ⟨cs, h⟩

/-- A letter and a surrogate pair, each as a constant of a class. -/
theorem className_otherTexts_pair :
    (stringLayout [120]).WellFormed ∧ (stringLayout [0xD83D, 0xDE00]).WellFormed ∧
      (stringLayout [120]).Legal ∧ (stringLayout [0xD83D, 0xDE00]).Legal ∧
      (stringLayout [120]).NamedIn 1 ∧
      (stringLayout [120]).DiffersBut (stringLayout [0xD83D, 0xDE00]) 1 ∧
      ∃ name, className ((stringLayout [120]).bytes ++ [0, 0]) = .ok name ∧
        className ((stringLayout [0xD83D, 0xDE00]).bytes ++ [0, 0]) = .ok name := by
  have hf : (stringLayout [120]).WellFormed := by decide
  have hg : (stringLayout [0xD83D, 0xDE00]).WellFormed := by decide
  have hletter : encodeUnits [120] = ModifiedUtf8.encode ['x'] := by decide
  have hpair : encodeUnits [0xD83D, 0xDE00] = ModifiedUtf8.encode ['😀'] := by decide
  have hpaired : (stringLayout [120]).Paired ∧ (stringLayout [0xD83D, 0xDE00]).Paired :=
    ⟨stringLayout_paired hletter, stringLayout_paired hpair⟩
  refine ⟨hf, hg, stringLayout_legal _, stringLayout_legal _, stringLayout_namedIn _,
    stringLayout_differsBut _ _, ?_⟩
  exact (className_otherTexts hf hg (stringLayout_legal _) (stringLayout_legal _)
    (stringLayout_namedIn _) (stringLayout_differsBut _ _) [0, 0]).1.mpr hpaired

/-- A constant that is a lone surrogate, legal as it is, costs the class its name. -/
theorem className_loneSurrogate :
    (stringLayout [120]).WellFormed ∧ (stringLayout [0xD800]).WellFormed ∧
      (stringLayout [120]).Legal ∧ (stringLayout [0xD800]).Legal ∧
      (stringLayout [120]).NamedIn 1 ∧
      (stringLayout [120]).DiffersBut (stringLayout [0xD800]) 1 ∧
      className ((stringLayout [120]).bytes ++ [0, 0]) = .ok "p.A" ∧
      className ((stringLayout [0xD800]).bytes ++ [0, 0]) = .error .badText := by
  have hf : (stringLayout [120]).WellFormed := by decide
  have hg : (stringLayout [0xD800]).WellFormed := by decide
  refine ⟨hf, hg, stringLayout_legal _, stringLayout_legal _, stringLayout_namedIn _,
    stringLayout_differsBut _ _, ?_, ?_⟩
  · rw [Layout.className_bytes hf]
    rfl
  · rw [Layout.className_bytes hg]
    rfl

end GroovyRounds.ClassFile
