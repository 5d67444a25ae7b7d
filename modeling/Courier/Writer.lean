/-!
Values that come with a record of what happened while they were made. What two steps record in turn is
the first record followed by the second.
-/
namespace Courier

/-- A value together with what was recorded on the way to it, oldest first. -/
structure Writer (ω α : Type) where
  value : α
  output : List ω

namespace Writer

variable {ω ω' α β : Type}

instance : Monad (Writer ω) where
  pure value := ⟨value, []⟩
  bind x f := let y := f x.value; ⟨y.value, x.output ++ y.output⟩

def tell (entry : ω) : Writer ω Unit := ⟨(), [entry]⟩

/-- The same value with its record in other terms. -/
def mapOutput (f : ω → ω') (x : Writer ω α) : Writer ω' α := ⟨x.value, x.output.map f⟩

/-- The same value with only that part of its record for which `f` has other terms. -/
def filterMapOutput (f : ω → Option ω') (x : Writer ω α) : Writer ω' α :=
  ⟨x.value, x.output.filterMap f⟩

@[simp] theorem value_pure (x : α) : (pure x : Writer ω α).value = x := rfl

@[simp] theorem output_pure (x : α) : (pure x : Writer ω α).output = [] := rfl

@[simp] theorem value_bind (x : Writer ω α) (f : α → Writer ω β) :
    (x >>= f).value = (f x.value).value := rfl

@[simp] theorem output_bind (x : Writer ω α) (f : α → Writer ω β) :
    (x >>= f).output = x.output ++ (f x.value).output := rfl

@[simp] theorem value_map (f : α → β) (x : Writer ω α) : (f <$> x).value = f x.value := rfl

@[simp] theorem output_map (f : α → β) (x : Writer ω α) : (f <$> x).output = x.output :=
  List.append_nil _

@[simp] theorem value_tell (entry : ω) : (tell entry).value = () := rfl

@[simp] theorem output_tell (entry : ω) : (tell entry).output = [entry] := rfl

@[simp] theorem value_mapOutput (f : ω → ω') (x : Writer ω α) : (x.mapOutput f).value = x.value := rfl

@[simp] theorem output_mapOutput (f : ω → ω') (x : Writer ω α) :
    (x.mapOutput f).output = x.output.map f := rfl

@[simp] theorem filterMapOutput_pure (f : ω → Option ω') (x : α) :
    (pure x : Writer ω α).filterMapOutput f = pure x := rfl

@[simp] theorem filterMapOutput_bind (f : ω → Option ω') (x : Writer ω α) (g : α → Writer ω β) :
    (x >>= g).filterMapOutput f = x.filterMapOutput f >>= fun a => (g a).filterMapOutput f := by
  show (⟨_, _⟩ : Writer ω' β) = ⟨_, _⟩
  simp only [value_bind, output_bind, List.filterMap_append, filterMapOutput]

instance : LawfulMonad (Writer ω) := LawfulMonad.mk' (Writer ω)
  (fun x => by
    show (⟨x.value, x.output ++ []⟩ : Writer ω _) = x
    rw [List.append_nil])
  (fun _ _ => rfl)
  (fun x f g => by
    show (⟨_, _⟩ : Writer ω _) = ⟨_, _⟩
    simp only [value_bind, output_bind, List.append_assoc])

end Writer

end Courier
