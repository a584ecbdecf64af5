import GroovyRounds.Ini.Reader

/-!
# Values that refer to other options

In a value, `%(name)s` stands for the value of another option and `%%` for a
percent sign. References nest at most ten deep.
-/

namespace GroovyRounds.Ini

/-- Why a value cannot be given. -/
inductive ValueFault where
  | badReference
  | unknownOption
  | tooDeep
  /-- The option referred to has no value. -/
  | noValue
deriving DecidableEq, Repr

def depthLimit : Nat := 10

/-- The name in a reference that starts after `%(`, and what follows it. -/
def reference? (cs : List Char) : Option (List Char × List Char) :=
  let name := cs.takeWhile (· ≠ ')')
  match name, cs.drop name.length with
  | _ :: _, ')' :: 's' :: rest => some (name, rest)
  | _, _ => none

theorem reference?_length {cs name rest : List Char} (h : reference? cs = some (name, rest)) :
    rest.length < cs.length := by
  dsimp only [reference?] at h
  generalize cs.takeWhile (· ≠ ')') = found at h
  have hl : (cs.drop found.length).length ≤ cs.length := by simp
  split at h
  · rename_i heq
    simp only [Option.some.injEq, Prod.mk.injEq] at h
    obtain ⟨-, rfl⟩ := h
    rw [heq] at hl
    simp only [List.length_cons] at hl
    omega
  · cases h

/-- Replaces the references in a text. `depth` counts the levels still allowed below. -/
def interpolate (value? : String → Option (Option String)) (depth : Nat) (cs : List Char) :
    Except ValueFault (List Char) :=
  match cs with
  | [] => .ok []
  | '%' :: '%' :: rest => do
    return '%' :: (← interpolate value? depth rest)
  | '%' :: '(' :: rest =>
    match h : reference? rest with
    | none => .error .badReference
    | some (name, more) =>
      match value? (String.ofList (Text.lower name)) with
      | none => .error .unknownOption
      | some none => .error .noValue
      | some (some value) =>
        match depth with
        | 0 =>
          if value.toList.contains '%' then .error .tooDeep
          else do
            have := reference?_length h
            return value.toList ++ (← interpolate value? 0 more)
        | depth + 1 => do
          let inner ← interpolate value? depth value.toList
          have := reference?_length h
          return inner ++ (← interpolate value? (depth + 1) more)
  | '%' :: _ => .error .badReference
  | c :: rest => do
    return c :: (← interpolate value? depth rest)
termination_by (depth, cs.length)
decreasing_by all_goals (simp_wf; omega)

-- ---------------------------------------------------------------------------
-- Looking up options
-- ---------------------------------------------------------------------------

/-- The value of an option as written, from the section or from the defaults. -/
def File.raw? (file : File) (options : Options) (name : String) : Option (Option String) :=
  match options.find? name with
  | some value => some value
  | none => file.defaults.find? name

/-- The value of an option with its references replaced: `none` if there is no such
option, `some none` if it has no value. -/
def File.value? (file : File) (options : Options) (name : String) :
    Except ValueFault (Option (Option String)) :=
  match file.raw? options name with
  | none => .ok none
  | some none => .ok (some none)
  | some (some value) => do
    let text ← interpolate (file.raw? options) (depthLimit - 1) value.toList
    return some (some (String.ofList text))

end GroovyRounds.Ini
