namespace IssuanceCheck

/-- A value, and all that was done to reach it, in order. -/
@[ext] structure Traced (ε α : Type) where
  trace : List ε
  value : α
deriving Repr

namespace Traced

variable {ε δ α β : Type}

def bind (x : Traced ε α) (f : α → Traced ε β) : Traced ε β :=
  let y := f x.value
  ⟨x.trace ++ y.trace, y.value⟩

instance : Monad (Traced ε) where
  pure a := ⟨[], a⟩
  bind := Traced.bind

@[simp] theorem pure_trace (a : α) : (pure a : Traced ε α).trace = [] := rfl

@[simp] theorem pure_value (a : α) : (pure a : Traced ε α).value = a := rfl

@[simp] theorem bind_trace (x : Traced ε α) (f : α → Traced ε β) :
    (x >>= f).trace = x.trace ++ (f x.value).trace := rfl

@[simp] theorem bind_value (x : Traced ε α) (f : α → Traced ε β) :
    (x >>= f).value = (f x.value).value := rfl

def mapTrace (f : ε → δ) (x : Traced ε α) : Traced δ α := ⟨x.trace.map f, x.value⟩

@[simp] theorem mapTrace_trace (f : ε → δ) (x : Traced ε α) :
    (x.mapTrace f).trace = x.trace.map f := rfl

@[simp] theorem mapTrace_value (f : ε → δ) (x : Traced ε α) : (x.mapTrace f).value = x.value := rfl

end Traced

end IssuanceCheck
