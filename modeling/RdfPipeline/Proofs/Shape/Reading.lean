import Mathlib.Data.List.Forall2
import RdfPipeline.Shape.Compile

/-!
# Readers that may fail

What can be said of the outcome of a reader is put together from its parts: the property of what one
reader yields, the kind of fault with which it fails, and the agreement of the readers of two
documents.
-/

set_option autoImplicit false

namespace RdfPipeline.Shape

variable {ε α β : Type}

/-! ## One reader -/

/-- What is read, if anything, has the property. -/
def Yields (property : α → Prop) (reading : Except ε α) : Prop :=
  ∀ value, reading = .ok value → property value

namespace Yields

variable {property : α → Prop} {further : β → Prop} {reading : Except ε α}

theorem any (reading : Except ε α) : Yields (fun _ => True) reading :=
  fun _ _ => trivial

theorem ok {value : α} (holds : property value) : Yields property (.ok value : Except ε α) := by
  intro read same
  cases same
  exact holds

theorem error (fault : ε) : Yields property (.error fault : Except ε α) := by
  intro read same
  cases same

theorem bind {next : α → Except ε β} (first : Yields property reading)
    (each : ∀ value, property value → Yields further (next value)) :
    Yields further (reading >>= next) := by
  cases reading with
  | error fault => exact error fault
  | ok value => exact each value (first value rfl)

theorem map {convert : α → β} (first : Yields property reading)
    (each : ∀ value, property value → further (convert value)) :
    Yields further (reading.map convert) := by
  cases reading with
  | error fault => exact error fault
  | ok value => exact ok (each value (first value rfl))

theorem mapError {ε' : Type} {translate : ε → ε'} (first : Yields property reading) :
    Yields property (reading.mapError translate) := by
  cases reading with
  | error fault => exact error (translate fault)
  | ok value => exact ok (first value rfl)

theorem mapM {read : α → Except ε β} {items : List α}
    (each : ∀ item ∈ items, Yields further (read item)) :
    Yields (fun values => ∀ value ∈ values, further value) (items.mapM read) := by
  induction items with
  | nil => exact ok (by simp)
  | cons item rest ih =>
      rw [List.mapM_cons]
      refine (each item List.mem_cons_self).bind fun value first => ?_
      refine (ih fun other member => each other (List.mem_cons_of_mem _ member)).bind ?_
      intro values others
      exact ok (List.forall_mem_cons.mpr ⟨first, others⟩)

end Yields

/-- What is read has the property, or the fault is of the kind. -/
inductive Settles (property : α → Prop) (kind : ε → Prop) : Except ε α → Prop where
  | ok {value : α} (holds : property value) : Settles property kind (.ok value)
  | error {fault : ε} (holds : kind fault) : Settles property kind (.error fault)

namespace Settles

variable {property : α → Prop} {further : β → Prop} {kind : ε → Prop} {reading : Except ε α}

theorem bind {next : α → Except ε β} (first : Settles property kind reading)
    (each : ∀ value, property value → Settles further kind (next value)) :
    Settles further kind (reading >>= next) := by
  cases first with
  | ok holds => exact each _ holds
  | error holds => exact .error holds

theorem map {convert : α → β} (first : Settles property kind reading)
    (each : ∀ value, property value → further (convert value)) :
    Settles further kind (reading.map convert) := by
  cases first with
  | ok holds => exact .ok (each _ holds)
  | error holds => exact .error holds

theorem mapM {read : α → Except ε β} {items : List α}
    (each : ∀ item ∈ items, Settles further kind (read item)) :
    Settles (fun values => ∀ value ∈ values, further value) kind (items.mapM read) := by
  induction items with
  | nil => exact .ok (by simp)
  | cons item rest ih =>
      rw [List.mapM_cons]
      refine (each item List.mem_cons_self).bind fun value first => ?_
      refine (ih fun other member => each other (List.mem_cons_of_mem _ member)).bind ?_
      intro values others
      exact .ok (List.forall_mem_cons.mpr ⟨first, others⟩)

end Settles

/-! ## Two readers -/

/-- Both readings fail, for whatever reason, or what they read is related. -/
inductive Agree {α' : Type} (related : α → α' → Prop) : Except ε α → Except ε α' → Prop where
  | error (fault fault' : ε) : Agree related (.error fault) (.error fault')
  | ok {value : α} {value' : α'} (holds : related value value') :
      Agree related (.ok value) (.ok value')

namespace Agree

theorem of_eq {related : α → α → Prop} {reading reading' : Except ε α}
    (reflexive : ∀ value, related value value) (same : reading = reading') :
    Agree related reading reading' := by
  subst same
  cases reading with
  | error fault => exact .error fault fault
  | ok value => exact .ok (reflexive value)

variable {α' β' : Type} {related : α → α' → Prop} {further : β → β' → Prop}
  {reading : Except ε α} {reading' : Except ε α'}

theorem bind {next : α → Except ε β} {next' : α' → Except ε β'}
    (first : Agree related reading reading')
    (each : ∀ value value', related value value' → Agree further (next value) (next' value')) :
    Agree further (reading >>= next) (reading' >>= next') := by
  cases first with
  | error fault fault' => exact .error fault fault'
  | ok holds => exact each _ _ holds

theorem map {convert : α → β} {convert' : α' → β'} (first : Agree related reading reading')
    (each : ∀ value value', related value value' → further (convert value) (convert' value')) :
    Agree further (reading.map convert) (reading'.map convert') := by
  cases first with
  | error fault fault' => exact .error fault fault'
  | ok holds => exact .ok (each _ _ holds)

theorem mapM_id {readings : List (Except ε α)} {readings' : List (Except ε α')}
    (each : List.Forall₂ (Agree related) readings readings') :
    Agree (List.Forall₂ related) (readings.mapM fun reading => reading)
      (readings'.mapM fun reading => reading) := by
  induction each with
  | nil => exact .ok .nil
  | cons first _ ih =>
      rw [List.mapM_cons, List.mapM_cons]
      refine first.bind fun value value' holds => ih.bind fun values values' rest => ?_
      exact .ok (.cons holds rest)

theorem trans {α'' : Type} {related' : α' → α'' → Prop} {overall : α → α'' → Prop}
    {reading'' : Except ε α''} (first : Agree related reading reading')
    (second : Agree related' reading' reading'')
    (each : ∀ value value' value'', related value value' → related' value' value'' →
      overall value value'') : Agree overall reading reading'' := by
  cases first with
  | error fault fault' =>
      cases second with
      | error _ fault'' => exact .error fault fault''
  | ok holds =>
      cases second with
      | ok holds' => exact .ok (each _ _ _ holds holds')

/-- Which of the items fails first depends on their order, but not whether one does. -/
theorem mapM_perm (read : α → Except ε β) {items items' : List α} (permuted : items.Perm items') :
    Agree List.Perm (items.mapM read) (items'.mapM read) := by
  induction permuted with
  | nil => exact .ok .nil
  | cons item _ ih =>
      rw [List.mapM_cons, List.mapM_cons]
      refine (of_eq (fun _ => rfl) rfl : Agree Eq (read item) (read item)).bind ?_
      rintro value _ rfl
      exact ih.bind fun values values' rest => .ok (rest.cons value)
  | swap first second rest =>
      simp only [List.mapM_cons]
      generalize read first = one, read second = other, rest.mapM read = more
      cases one with
      | error fault => cases other <;> exact .error _ fault
      | ok value =>
          cases other with
          | error fault => exact .error fault fault
          | ok value' =>
              cases more with
              | error fault => exact .error fault fault
              | ok values => exact .ok (.swap value value' values)
  | trans _ _ ih ih' => exact ih.trans ih' fun _ _ _ one other => one.trans other

end Agree

end RdfPipeline.Shape
