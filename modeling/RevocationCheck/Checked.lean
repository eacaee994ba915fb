import RevocationCheck.Failure

/-!
# Results with their fetches

A check records the URLs that it asks for, in order, beside its result.  Checks are put in sequence
by `bind`: the URLs of a check that fails are kept, and nothing behind it is asked for.
-/

namespace RevocationCheck

/-- The result of a check, and the URLs asked for on the way. -/
structure Checked (α : Type) where
  fetched : List String
  result : Except Failure α

namespace Checked

/-- A result that asks for nothing. -/
def of {α : Type} (result : Except Failure α) : Checked α := ⟨[], result⟩

/-- Go on with a result; a failure ends the check. -/
def andThen {α β : Type} (a : Checked α) (f : α → Checked β) : Checked β :=
  match a.result with
  | .error failure => ⟨a.fetched, .error failure⟩
  | .ok x => ⟨a.fetched ++ (f x).fetched, (f x).result⟩

instance : Monad Checked where
  pure x := of (.ok x)
  bind := andThen

section Lemmas

variable {α β : Type} {a : Checked α} {f : α → Checked β}

/-- Behind a success the next check runs, and its URLs follow. -/
theorem bind_of_ok {x : α} (h : a.result = .ok x) :
    a >>= f = ⟨a.fetched ++ (f x).fetched, (f x).result⟩ := by
  change andThen a f = _
  rw [andThen, h]

/-- A failure ends the sequence. -/
theorem bind_of_error {failure : Failure} (h : a.result = .error failure) :
    a >>= f = ⟨a.fetched, .error failure⟩ := by
  change andThen a f = _
  rw [andThen, h]

instance : LawfulMonad Checked :=
  LawfulMonad.mk' Checked
    (by
      rintro α ⟨fetched, result⟩
      cases result with
      | error failure => rfl
      | ok x => exact congrArg (Checked.mk · (.ok x)) (List.append_nil fetched))
    (fun _ _ => rfl)
    (by
      rintro α β γ ⟨fetched, result⟩ f g
      cases result with
      | error failure => rfl
      | ok x =>
          change andThen (andThen _ f) g = andThen _ fun x => andThen (f x) g
          simp only [andThen]
          cases (f x).result <;> simp)

theorem of_ok_bind (x : α) : of (.ok x) >>= f = f x := by
  rw [bind_of_ok (x := x) rfl]
  rfl

theorem of_error_bind (failure : Failure) :
    (of (.error failure) : Checked α) >>= f = ⟨[], .error failure⟩ :=
  bind_of_error rfl

end Lemmas

end Checked

end RevocationCheck
