import GroovyRounds.Proofs.Text.Numeral
import GroovyRounds.Version

/-!
# Comparing versions

Versions are compared by the first parts that are spelled differently. Two
things keep that from being a total preorder: a part may look like a number and
not be readable as one, and two spellings of one number end the comparison,
whatever comes after them. But for these, any two versions compare, their order
turns around with them, and it is transitive (`compare_laws`).
-/

namespace GroovyRounds.Version

-- ---------------------------------------------------------------------------
-- Parts
-- ---------------------------------------------------------------------------

/-- A part of a version, as it is spelled. -/
abbrev Part := List Char

/-- The number that a part writes. -/
def Part.value (p : Part) : Except NumeralFault Int :=
  Text.readInteger (String.ofList p)

variable {p q r : Part} {ps qs rs front : List Part} {order : Int}

/-- One part does not come after another, of a different spelling. -/
inductive Part.Before : Part → Part → Prop where
  | numbers {p q : Part} {m n : Int} (hp : Text.isFigures p = true) (hq : Text.isFigures q = true)
      (hm : p.value = .ok m) (hn : q.value = .ok n) (hle : m ≤ n) : Before p q
  | mixed {p q : Part} (hp : Text.isFigures p = false) (hq : Text.isFigures q = true) : Before p q
  | texts {p q : Part} (hp : Text.isFigures p = false) (hq : Text.isFigures q = false)
      (hlt : p < q) : Before p q

theorem comparePart_of_figures (hp : Text.isFigures p = true) (hq : Text.isFigures q = true) :
    comparePart p q = (do return (← p.value) - (← q.value)) := by
  rw [comparePart, hp, hq]
  rfl

theorem comparePart_of_figures_ok_iff (hp : Text.isFigures p = true)
    (hq : Text.isFigures q = true) :
    comparePart p q = .ok order ↔ ∃ m n, p.value = .ok m ∧ q.value = .ok n ∧ order = m - n := by
  rw [comparePart_of_figures hp hq]
  cases p.value with
  | error fault => exact ⟨nofun, nofun⟩
  | ok m =>
    cases q.value with
    | error fault => exact ⟨nofun, nofun⟩
    | ok n =>
      constructor
      · rintro ⟨⟩
        exact ⟨m, n, rfl, rfl, rfl⟩
      · rintro ⟨_, _, ⟨⟩, ⟨⟩, rfl⟩
        rfl

/-- The order of two parts that are not both numbers. -/
def textOrder (p q : Part) : Int :=
  if Text.isFigures p then 1 else if Text.isFigures q then -1 else if p < q then -1 else 1

theorem comparePart_of_not_figures (h : ¬ (Text.isFigures p = true ∧ Text.isFigures q = true)) :
    comparePart p q = .ok (textOrder p q) := by
  rw [comparePart, if_neg (by simpa using h), textOrder]
  split
  · rfl
  · split <;> rfl

theorem textOrder_swap (hne : p ≠ q) (h : ¬ (Text.isFigures p = true ∧ Text.isFigures q = true)) :
    textOrder q p = -textOrder p q := by
  have hturn : q < p ↔ ¬ p < q :=
    ⟨fun hqp hpq => List.lt_irrefl p (List.lt_trans hpq hqp),
      fun hnot => Classical.byContradiction fun hnot' => hne (List.le_antisymm hnot' hnot)⟩
  unfold textOrder
  cases hp : Text.isFigures p with
  | true =>
    cases hq : Text.isFigures q with
    | true => exact absurd ⟨hp, hq⟩ h
    | false => rfl
  | false =>
    cases hq : Text.isFigures q with
    | true => rfl
    | false => by_cases hlt : p < q <;> simp [hturn, hlt]

/-- Parts turn around with their order. -/
theorem comparePart_swap (hne : p ≠ q) :
    comparePart p q = .ok order ↔ comparePart q p = .ok (-order) := by
  by_cases h : Text.isFigures p = true ∧ Text.isFigures q = true
  · rw [comparePart_of_figures_ok_iff h.1 h.2, comparePart_of_figures_ok_iff h.2 h.1]
    constructor
    · rintro ⟨m, n, hm, hn, rfl⟩
      exact ⟨n, m, hn, hm, by omega⟩
    · rintro ⟨n, m, hn, hm, horder⟩
      exact ⟨m, n, hm, hn, by omega⟩
  · rw [comparePart_of_not_figures h, comparePart_of_not_figures (mt And.symm h),
      textOrder_swap hne h, Except.ok.injEq, Except.ok.injEq, Int.neg_inj]

theorem comparePart_le_iff : (∃ order ≤ 0, comparePart p q = .ok order) ↔ p.Before q := by
  constructor
  · rintro ⟨order, hle, horder⟩
    by_cases h : Text.isFigures p = true ∧ Text.isFigures q = true
    · obtain ⟨m, n, hm, hn, rfl⟩ := (comparePart_of_figures_ok_iff h.1 h.2).mp horder
      exact .numbers h.1 h.2 hm hn (by omega)
    · rw [comparePart_of_not_figures h] at horder
      cases horder
      cases hp : Text.isFigures p with
      | true => simp [textOrder, hp] at hle
      | false =>
        cases hq : Text.isFigures q with
        | true => exact .mixed hp hq
        | false =>
          refine .texts hp hq (Classical.byContradiction fun hnot => ?_)
          simp [textOrder, hp, hq, hnot] at hle
  · rintro (⟨hp, hq, hm, hn, hle⟩ | ⟨hp, hq⟩ | ⟨hp, hq, hlt⟩)
    · exact ⟨_, by omega, (comparePart_of_figures_ok_iff hp hq).mpr ⟨_, _, hm, hn, rfl⟩⟩
    · refine ⟨-1, by decide, ?_⟩
      rw [comparePart_of_not_figures (by simp [hp]), textOrder, hp, hq]
      rfl
    · refine ⟨-1, by decide, ?_⟩
      rw [comparePart_of_not_figures (by simp [hp]), textOrder, hp, hq]
      simp [hlt]

/-- Of three parts, the first does not come after the third if the second is between them. -/
theorem Part.Before.trans (h : p.Before q) (h' : q.Before r) : p.Before r := by
  cases h with
  | numbers hp hq hm hn hle =>
    cases h' with
    | numbers _ hr hn' hk hle' =>
      obtain rfl := Except.ok.inj (hn.symm.trans hn')
      exact .numbers hp hr hm hk (Int.le_trans hle hle')
    | mixed hq' => simp [hq] at hq'
    | texts hq' => simp [hq] at hq'
  | mixed hp hq =>
    cases h' with
    | numbers _ hr => exact .mixed hp hr
    | mixed hq' => simp [hq] at hq'
    | texts hq' => simp [hq] at hq'
  | texts hp hq hlt =>
    cases h' with
    | numbers hq' => simp [hq] at hq'
    | mixed _ hr => exact .mixed hp hr
    | texts _ hr hlt' => exact .texts hp hr (List.lt_trans hlt hlt')

/-- Parts that stand before each other write one number. -/
theorem Part.Before.antisymm (h : p.Before q) (h' : q.Before p) :
    Text.isFigures p = true ∧ Text.isFigures q = true ∧
      ∃ n, p.value = .ok n ∧ q.value = .ok n := by
  cases h with
  | numbers hp hq hm hn hle =>
    cases h' with
    | numbers _ _ hn' hm' hle' =>
      obtain rfl := Except.ok.inj (hm.symm.trans hm')
      obtain rfl := Except.ok.inj (hn.symm.trans hn')
      exact ⟨hp, hq, _, hm, Int.le_antisymm hle hle' ▸ hn⟩
    | mixed hq' => simp [hq] at hq'
    | texts hq' => simp [hq] at hq'
  | mixed hp hq =>
    cases h' with
    | numbers _ hp' => simp [hp] at hp'
    | mixed hq' => simp [hq] at hq'
    | texts hq' => simp [hq] at hq'
  | texts hp hq hlt =>
    cases h' with
    | numbers hq' => simp [hq] at hq'
    | mixed _ hp' => simp [hp] at hp'
    | texts _ _ hlt' => exact absurd (List.lt_trans hlt hlt') (List.lt_irrefl p)

-- ---------------------------------------------------------------------------
-- Lists of parts
-- ---------------------------------------------------------------------------

/-- What is spelled alike does not count. -/
theorem compareParts_append (front ps qs : List Part) :
    compareParts (front ++ ps) (front ++ qs) = compareParts ps qs := by
  induction front with
  | nil => rfl
  | cons p front ih => rw [List.cons_append, List.cons_append, compareParts, if_pos rfl, ih]

theorem compareParts_of_ne (hne : p ≠ q) :
    compareParts (p :: ps) (q :: qs) = comparePart p q := by
  rw [compareParts, if_neg hne]

/-- The first parts that are spelled differently in two lists of parts. -/
def FirstDiffer (ps qs : List Part) (p q : Part) : Prop :=
  p ≠ q ∧ ∃ front ps' qs', ps = front ++ p :: ps' ∧ qs = front ++ q :: qs'

/-- Two lists of parts have first parts that differ, or one goes on where the other ends. -/
theorem compareParts_cases (ps qs : List Part) :
    (∃ p q, FirstDiffer ps qs p q ∧ compareParts ps qs = comparePart p q) ∨
      (∀ p q, ¬ FirstDiffer ps qs p q) ∧
        compareParts ps qs = .ok (ps.length - qs.length : Int) := by
  induction ps generalizing qs with
  | nil => exact .inr ⟨fun p q ⟨_, front, _, _, hps, _⟩ => by simp at hps, by cases qs <;> rfl⟩
  | cons p ps ih =>
    cases qs with
    | nil => exact .inr ⟨fun p q ⟨_, front, _, _, _, hqs⟩ => by simp at hqs, rfl⟩
    | cons q qs =>
      by_cases heq : p = q
      · subst heq
        have hsame : compareParts (p :: ps) (p :: qs) = compareParts ps qs :=
          compareParts_append [p] ps qs
        rcases ih qs with ⟨p', q', ⟨hne, front, ps', qs', rfl, rfl⟩, horder⟩ | ⟨hnone, horder⟩
        · exact .inl ⟨p', q', ⟨hne, p :: front, ps', qs', rfl, rfl⟩, hsame.trans horder⟩
        · refine .inr ⟨?_, ?_⟩
          · rintro p' q' ⟨hne, front, ps', qs', hps, hqs⟩
            cases front with
            | nil => exact hne ((List.cons.inj hps).1.symm.trans (List.cons.inj hqs).1)
            | cons first front =>
              exact hnone p' q' ⟨hne, front, ps', qs', (List.cons.inj hps).2, (List.cons.inj hqs).2⟩
          · rw [hsame, horder, List.length_cons, List.length_cons]
            congr 1
            omega
      · exact .inl ⟨p, q, ⟨heq, [], ps, qs, rfl, rfl⟩, compareParts_of_ne heq⟩

theorem FirstDiffer.compareParts_eq (h : FirstDiffer ps qs p q) :
    compareParts ps qs = comparePart p q := by
  obtain ⟨hne, front, ps', qs', rfl, rfl⟩ := h
  rw [compareParts_append, compareParts_of_ne hne]

theorem FirstDiffer.symm (h : FirstDiffer ps qs p q) : FirstDiffer qs ps q p := by
  obtain ⟨hne, front, ps', qs', hps, hqs⟩ := h
  exact ⟨hne.symm, front, qs', ps', hqs, hps⟩

/-- Lists of parts turn around with their order. -/
theorem compareParts_swap (ps qs : List Part) :
    compareParts ps qs = .ok order ↔ compareParts qs ps = .ok (-order) := by
  rcases compareParts_cases ps qs with ⟨p, q, hdiffer, horder⟩ | ⟨hnone, horder⟩
  · rw [horder, hdiffer.symm.compareParts_eq, comparePart_swap hdiffer.1]
  · rcases compareParts_cases qs ps with ⟨q, p, hdiffer, -⟩ | ⟨-, horder'⟩
    · exact absurd hdiffer.symm (hnone p q)
    · rw [horder, horder', Except.ok.injEq, Except.ok.injEq]
      omega

/-- One list of parts does not come after another. -/
def PartsPrecede (ps qs : List Part) : Prop :=
  ∃ order ≤ 0, compareParts ps qs = .ok order

/-- The second list is spelled differently from the other two in one number first, which is the
same number, and behind it the first list comes after the third, or cannot be compared with it. -/
def PartsRespelled (ps qs rs : List Part) : Prop :=
  ∃ front p q ps' qs' rs', ps = front ++ p :: ps' ∧ qs = front ++ q :: qs' ∧
    rs = front ++ p :: rs' ∧ p ≠ q ∧ (Text.isFigures p = true ∧ Text.isFigures q = true ∧
      ∃ n, Part.value p = .ok n ∧ Part.value q = .ok n) ∧ ¬ PartsPrecede ps' rs'

theorem partsPrecede_append_iff (front : List Part) :
    PartsPrecede (front ++ ps) (front ++ qs) ↔ PartsPrecede ps qs := by
  rw [PartsPrecede, PartsPrecede, compareParts_append]

theorem partsPrecede_of_ne_iff (hne : p ≠ q) : PartsPrecede (p :: ps) (q :: qs) ↔ p.Before q := by
  rw [PartsPrecede, compareParts_of_ne hne, comparePart_le_iff]

theorem partsPrecede_nil (qs : List Part) : PartsPrecede [] qs :=
  ⟨-qs.length, by omega, by cases qs <;> simp [compareParts]⟩

theorem not_partsPrecede_nil : ¬ PartsPrecede (p :: ps) [] := by
  rintro ⟨order, hle, horder⟩
  cases horder
  simp at hle
  omega

theorem PartsRespelled.not_partsPrecede (h : PartsRespelled ps qs rs) : ¬ PartsPrecede ps rs := by
  obtain ⟨front, p, q, ps', qs', rs', rfl, -, rfl, -, -, hrest⟩ := h
  rw [partsPrecede_append_iff]
  exact fun hprecede => hrest ((partsPrecede_append_iff [p]).mp hprecede)

theorem PartsPrecede.trans (h : PartsPrecede ps qs) (h' : PartsPrecede qs rs) :
    PartsPrecede ps rs ∨ PartsRespelled ps qs rs := by
  induction ps generalizing qs rs with
  | nil => exact .inl (partsPrecede_nil rs)
  | cons p ps ih =>
    cases qs with
    | nil => exact absurd h not_partsPrecede_nil
    | cons q qs =>
      cases rs with
      | nil => exact absurd h' not_partsPrecede_nil
      | cons r rs =>
        by_cases hpq : p = q
        · subst hpq
          by_cases hpr : p = r
          · subst hpr
            have hnext := ih ((partsPrecede_append_iff [p]).mp h)
              ((partsPrecede_append_iff [p]).mp h')
            refine hnext.imp (partsPrecede_append_iff [p]).mpr ?_
            rintro ⟨front, q, q', ps', qs', rs', rfl, rfl, rfl, hrest⟩
            exact ⟨p :: front, q, q', ps', qs', rs', rfl, rfl, rfl, hrest⟩
          · exact .inl ((partsPrecede_of_ne_iff hpr).mpr ((partsPrecede_of_ne_iff hpr).mp h'))
        · have hbefore := (partsPrecede_of_ne_iff hpq).mp h
          by_cases hqr : q = r
          · subst hqr
            exact .inl ((partsPrecede_of_ne_iff hpq).mpr hbefore)
          · have hbefore' := (partsPrecede_of_ne_iff hqr).mp h'
            by_cases hpr : p = r
            · -- Both others are spelled alike here, and the rest of them decides.
              subst hpr
              by_cases hrest : PartsPrecede ps rs
              · exact .inl ((partsPrecede_append_iff [p]).mpr hrest)
              · exact .inr ⟨[], p, q, ps, qs, rs, rfl, rfl, rfl, hpq,
                  hbefore.antisymm hbefore', hrest⟩
            · exact .inl ((partsPrecede_of_ne_iff hpr).mpr (hbefore.trans hbefore'))

-- ---------------------------------------------------------------------------
-- Versions
-- ---------------------------------------------------------------------------

variable {a b c : Option String}

/-- One version does not come after another. -/
def Precedes (a b : Option String) : Prop :=
  ∃ order ≤ 0, compare a b = .ok order

/-- If the first parts that differ in two versions both look like numbers, they can be read. -/
def Readable (a b : Option String) : Prop :=
  ∀ v ∈ a, ∀ w ∈ b, ∀ p q, FirstDiffer (parts v) (parts w) p q →
    Text.isFigures p = true → Text.isFigures q = true → ∀ part ∈ [p, q],
      (∀ c ∈ part, Text.isDecimal c = true) ∧ part.length ≤ Text.digitLimit

/-- The second version is spelled differently from the other two in one number first, which is the
same number, and behind it the first version comes after the third, or cannot be compared with
it. -/
def Respelled (a b c : Option String) : Prop :=
  ∃ u v w, a = some u ∧ b = some v ∧ c = some w ∧ PartsRespelled (parts u) (parts v) (parts w)

theorem exists_compare_iff (a b : Option String) :
    (∃ order, compare a b = .ok order) ↔ Readable a b := by
  cases a with
  | none => exact ⟨fun _ => nofun, fun _ => by cases b <;> exact ⟨_, rfl⟩⟩
  | some v =>
    cases b with
    | none => exact ⟨fun _ _ _ => nofun, fun _ => ⟨_, rfl⟩⟩
    | some w =>
      rw [compare]
      constructor
      · rintro ⟨order, horder⟩ _ ⟨⟩ _ ⟨⟩ p q hdiffer hp hq
        rw [hdiffer.compareParts_eq] at horder
        obtain ⟨m, n, hm, hn, -⟩ := (comparePart_of_figures_ok_iff hp hq).mp horder
        simp only [List.forall_mem_cons, List.not_mem_nil, false_implies, implies_true, and_true]
        exact ⟨(Text.exists_readInteger_iff hp).mp ⟨m, hm⟩,
          (Text.exists_readInteger_iff hq).mp ⟨n, hn⟩⟩
      · intro h
        rcases compareParts_cases (parts v) (parts w) with ⟨p, q, hdiffer, horder⟩ | ⟨-, horder⟩
        · rw [horder]
          by_cases hboth : Text.isFigures p = true ∧ Text.isFigures q = true
          · have hread := h v rfl w rfl p q hdiffer hboth.1 hboth.2
            obtain ⟨m, hm⟩ := (Text.exists_readInteger_iff hboth.1).mpr
              (hread p List.mem_cons_self)
            obtain ⟨n, hn⟩ := (Text.exists_readInteger_iff hboth.2).mpr (hread q (by simp))
            exact ⟨_, (comparePart_of_figures_ok_iff hboth.1 hboth.2).mpr ⟨m, n, hm, hn, rfl⟩⟩
          · exact ⟨_, comparePart_of_not_figures hboth⟩
        · exact ⟨_, horder⟩

theorem compare_swap (a b : Option String) (order : Int) :
    compare a b = .ok order ↔ compare b a = .ok (-order) := by
  cases a <;> cases b
  case some.some => exact compareParts_swap _ _
  all_goals
    simp only [compare, Except.ok.injEq]
    omega

theorem Precedes.trans_or (h : Precedes a b) (h' : Precedes b c) :
    Precedes a c ∨ Respelled a b c := by
  cases a with
  | none => exact .inl ⟨if c.isNone then 0 else -1, by split <;> decide, by cases c <;> rfl⟩
  | some u =>
    cases b with
    | none =>
      obtain ⟨order, hle, ⟨⟩⟩ := h
      exact absurd hle (by decide)
    | some v =>
      cases c with
      | none =>
        obtain ⟨order, hle, ⟨⟩⟩ := h'
        exact absurd hle (by decide)
      | some w =>
        exact (PartsPrecede.trans h h').imp id fun hparts => ⟨u, v, w, rfl, rfl, rfl, hparts⟩

/-- Versions can be compared unless a number that decides cannot be read. Their order turns around
with them. Where one version precedes a second and that precedes a third, the first precedes the
third, unless the second one hides what comes behind a number that it spells differently. -/
theorem compare_laws (a b c : Option String) :
    ((∃ order, compare a b = .ok order) ↔ Readable a b) ∧
      (∀ order, compare a b = .ok order ↔ compare b a = .ok (-order)) ∧
      (Precedes a b → Precedes b c → (Precedes a c ↔ ¬ Respelled a b c)) := by
  refine ⟨exists_compare_iff a b, compare_swap a b, fun h h' => ?_⟩
  refine ⟨?_, (h.trans_or h').resolve_right⟩
  rintro hac ⟨u, v, w, rfl, rfl, rfl, hparts⟩
  exact hparts.not_partsPrecede hac

/-- A number may be spelled in two ways without harm. -/
theorem compare_laws_spelled :
    Precedes (some "1.5-rc") (some "1.06") ∧ Precedes (some "1.06") (some "1.6.1") ∧
      (Precedes (some "1.5-rc") (some "1.6.1") ↔
        ¬ Respelled (some "1.5-rc") (some "1.06") (some "1.6.1")) := by
  have hfirst : Precedes (some "1.5-rc") (some "1.06") := ⟨-1, by decide, by rfl⟩
  have hsecond : Precedes (some "1.06") (some "1.6.1") := ⟨0, by decide, by rfl⟩
  exact ⟨hfirst, hsecond, (compare_laws _ _ _).2.2 hfirst hsecond⟩

/-- The spelling of a number hides what comes after it, so that `1.5` stands with `01`, which
stands with `1.3`. A raised digit looks like a number and is none. -/
theorem compare_not_transitive :
    Precedes (some "1.5") (some "01") ∧ Precedes (some "01") (some "1.3") ∧
      ¬ Precedes (some "1.5") (some "1.3") ∧
      ¬ ∃ order, compare (some "1.²") (some "1.6") = .ok order := by
  refine ⟨⟨0, by decide, by rfl⟩, ⟨0, by decide, by rfl⟩, ?_, ?_⟩
  · rintro ⟨order, hle, horder⟩
    have htwo : compare (some "1.5") (some "1.3") = .ok 2 := by rfl
    rw [htwo] at horder
    cases horder
    exact absurd hle (by decide)
  · rintro ⟨order, horder⟩
    have herror : compare (some "1.²") (some "1.6") = .error (.malformed "²") := by rfl
    rw [herror] at horder
    cases horder

end GroovyRounds.Version
