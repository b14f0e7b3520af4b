import Mathlib.Data.List.Basic

set_option autoImplicit false

/-!
# Parsers that stop at a delimiter

A parser takes a value off the front of its input. One that never consumes a delimiter sees nothing
of what stands behind it.
-/
namespace Ombrac.DelimitedParser

/-- A failing parser leaves its caller where it was. -/
abbrev ListParser (τ α : Type) := List τ → Option (α × List τ)

def andThen {τ α β : Type} (first : ListParser τ α) (next : α → ListParser τ β) : ListParser τ β :=
  fun input => (first input).bind fun (a, rest) => next a rest

def orDefault {τ α : Type} (default : α) (inner : ListParser τ α) : ListParser τ α :=
  fun input => some ((inner input).getD (default, input))

/-- The rest comes from the input, and neither it nor the value depends on what stands behind the
delimiter. -/
structure Stops {τ α : Type} (delimiter : τ) (parser : ListParser τ α) : Prop where
  suffix : ∀ {input a rest}, parser input = some (a, rest) → rest <:+ input
  stop : ∀ input behind, parser (input ++ delimiter :: behind) =
    (parser input).map fun (a, rest) => (a, rest ++ delimiter :: behind)

section Stops
variable {τ α β : Type} {delimiter : τ}

theorem Stops.done (a : α) : Stops delimiter (fun input => some (a, input)) where
  suffix h := by
    cases h
    exact List.suffix_refl _
  stop _ _ := rfl

theorem Stops.fail : Stops delimiter (fun _ => (none : Option (α × List τ))) where
  suffix h := by cases h
  stop _ _ := rfl

theorem Stops.andThen {first : ListParser τ α} {next : α → ListParser τ β}
    (stops : Stops delimiter first) (stops' : ∀ a, Stops delimiter (next a)) :
    Stops delimiter (andThen first next) where
  suffix := by
    intro input b rest h
    obtain ⟨⟨a, middle⟩, read, read'⟩ := Option.bind_eq_some_iff.1 h
    exact ((stops' a).suffix read').trans (stops.suffix read)
  stop input behind := by
    unfold DelimitedParser.andThen
    rw [stops.stop]
    cases first input with
    | none => rfl
    | some value => exact (stops' value.1).stop value.2 behind

theorem Stops.orDefault {inner : ListParser τ α} (stops : Stops delimiter inner) (default : α) :
    Stops delimiter (orDefault default inner) where
  suffix := by
    intro input a rest h
    unfold DelimitedParser.orDefault at h
    cases read : inner input with
    | none =>
      rw [read] at h
      cases h
      exact List.suffix_refl _
    | some value =>
      rw [read] at h
      cases h
      exact stops.suffix read
  stop input behind := by
    unfold DelimitedParser.orDefault
    rw [stops.stop]
    cases inner input <;> rfl

theorem Stops.orElse {first second : ListParser τ α} (stops : Stops delimiter first)
    (stops' : Stops delimiter second) :
    Stops delimiter (fun input => (first input).or (second input)) where
  suffix := by
    intro input a rest h
    obtain read | ⟨_, read⟩ := Option.or_eq_some_iff.1 h
    · exact stops.suffix read
    · exact stops'.suffix read
  stop input behind := by
    rw [stops.stop, stops'.stop]
    cases first input <;> rfl

/-- An input without the token that is read next has none of it behind the value either. -/
theorem Stops.not_mem {parser : ListParser τ α} (stops : Stops delimiter parser) {input : List τ}
    {token : τ} (absent : token ∉ input) {a : α} {rest : List τ}
    (read : parser input = some (a, rest)) : token ∉ rest :=
  fun there => absent ((stops.suffix read).subset there)

end Stops

/-! ## Two ways to go on -/

/-- Two inputs of which one goes on with `behind`, the other with `behind'`, were read alike: both
refused, both read to the end, or both read up to there with the same rest before it. -/
inductive Alike {τ α : Type} (behind behind' : List τ) :
    Option (α × List τ) → Option (α × List τ) → Prop where
  | refused : Alike behind behind' none none
  | read (a : α) : Alike behind behind' (some (a, [])) (some (a, []))
  | before (a : α) (rest : List τ) :
      Alike behind behind' (some (a, rest ++ behind)) (some (a, rest ++ behind'))

section Alike
variable {τ α β : Type} {delimiter : τ} {behind behind' : List τ}

theorem Alike.map {x y : Option (α × List τ)} (alike : Alike behind behind' x y) (f : α → β) :
    Alike behind behind' (x.map fun (a, rest) => (f a, rest))
      (y.map fun (a, rest) => (f a, rest)) := by
  cases alike with
  | refused => exact .refused
  | read a => exact .read (f a)
  | before a rest => exact .before (f a) rest

theorem Stops.alike {parser : ListParser τ α} (stops : Stops delimiter parser) (input : List τ) :
    Alike (delimiter :: behind) (delimiter :: behind') (parser (input ++ delimiter :: behind))
      (parser (input ++ delimiter :: behind')) := by
  rw [stops.stop, stops.stop]
  cases parser input with
  | none => exact .refused
  | some value => exact .before value.1 value.2

end Alike

end Ombrac.DelimitedParser
