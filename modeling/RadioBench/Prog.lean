/-
Programs that ask for operations and continue with the replies.

A signature lists operations and the type of each one's reply.  A program over a
signature is finished, or asks for one operation and goes on with whatever is
replied, or has used up a budget that its caller set.  Programs say nothing of
what operations do, so a statement about a program is a statement about all ways
of carrying its operations out.

`run` carries a program out with a state, `runM` in a monad, and `interpretWith` by
programs over another signature.
-/

namespace RadioBench

/-- Operations and the types of their replies. -/
structure Signature where
  Op : Type
  Reply : Op → Type

/-- The operations of two signatures together. -/
def Signature.sum (S T : Signature) : Signature where
  Op := S.Op ⊕ T.Op
  Reply
    | .inl op => S.Reply op
    | .inr op => T.Reply op

inductive Prog (S : Signature) (α : Type) : Type
  | done (a : α)
  | ask (op : S.Op) (next : S.Reply op → Prog S α)
  | exhausted

namespace Prog

variable {S T : Signature} {α β γ σ : Type}

/-- Ask for one operation. -/
def op (o : S.Op) : Prog S (S.Reply o) := .ask o .done

protected def bind : Prog S α → (α → Prog S β) → Prog S β
  | done a, f => f a
  | ask o k, f => ask o fun r => (k r).bind f
  | exhausted, _ => exhausted

instance : Monad (Prog S) where
  pure := done
  bind := Prog.bind

@[simp]
theorem pure_eq_done (a : α) : (pure a : Prog S α) = done a := rfl

@[simp]
theorem done_bind (a : α) (f : α → Prog S β) : (done a >>= f) = f a := rfl

@[simp]
theorem ask_bind (o : S.Op) (k : S.Reply o → Prog S α) (f : α → Prog S β) :
    (ask o k >>= f) = ask o fun r => k r >>= f := rfl

@[simp]
theorem exhausted_bind (f : α → Prog S β) : ((exhausted : Prog S α) >>= f) = exhausted := rfl

@[simp]
theorem op_bind (o : S.Op) (f : S.Reply o → Prog S β) : (op o >>= f) = ask o f := rfl

theorem bind_done (p : Prog S α) : (p >>= done) = p := by
  induction p with
  | done a => rfl
  | ask o k ih => simp only [ask_bind, ih]
  | exhausted => rfl

theorem bind_assoc (p : Prog S α) (f : α → Prog S β) (g : β → Prog S γ) :
    (p >>= f >>= g) = p >>= fun a => f a >>= g := by
  induction p with
  | done a => rfl
  | ask o k ih => simp only [ask_bind, ih]
  | exhausted => rfl

instance : LawfulMonad (Prog S) :=
  LawfulMonad.mk' (Prog S) bind_done (fun _ _ => rfl) bind_assoc

/-- Carry a program out with a state.  There is no result when the program used
up its budget. -/
def run (handle : (o : S.Op) → σ → S.Reply o × σ) : Prog S α → σ → Option α × σ
  | done a, s => (some a, s)
  | ask o k, s =>
    let (r, s') := handle o s
    run handle (k r) s'
  | exhausted, s => (none, s)

/-- Carry a program out in a monad. -/
def runM {m : Type → Type} [Monad m] (handle : (o : S.Op) → m (S.Reply o)) :
    Prog S α → m (Option α)
  | done a => pure (some a)
  | ask o k => do
    let r ← handle o
    runM handle (k r)
  | exhausted => pure none

/-- Carry a program out by programs over another signature that share a state. -/
def interpretWith (meaning : (o : S.Op) → σ → Prog T (S.Reply o × σ)) :
    Prog S α → σ → Prog T (α × σ)
  | done a, s => done (a, s)
  | ask o k, s => meaning o s >>= fun (r, s') => interpretWith meaning (k r) s'
  | exhausted, _ => exhausted

theorem run_bind (handle : (o : S.Op) → σ → S.Reply o × σ) (p : Prog S α) (f : α → Prog S β)
    (s : σ) :
    run handle (p >>= f) s =
      match run handle p s with
      | (some a, s') => run handle (f a) s'
      | (none, s') => (none, s') := by
  induction p generalizing s with
  | done a => rfl
  | ask o k ih => simp only [ask_bind, run, ih]
  | exhausted => rfl

theorem interpretWith_bind (meaning : (o : S.Op) → σ → Prog T (S.Reply o × σ)) (p : Prog S α)
    (f : α → Prog S β) (s : σ) :
    interpretWith meaning (p >>= f) s =
      interpretWith meaning p s >>= fun x => interpretWith meaning (f x.1) x.2 := by
  induction p generalizing s with
  | done a => rfl
  | ask o k ih => simp only [ask_bind, interpretWith, ih, bind_assoc]
  | exhausted => rfl

end Prog
end RadioBench
