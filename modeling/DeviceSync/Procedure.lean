/-!
# Procedures

A procedure is either done, or it makes a call and goes on with the answer. What a call does is not part
of the procedure: `run` carries a procedure out on a state, given the effect of each call, and `stages`
lists the states in between, at any of which the process may die or another procedure may come in.

Main statement: `run_bind`, one procedure after another.
-/

namespace DeviceSync

/-- A procedure with a result. -/
inductive Procedure (Call : Type) (Answer : Call → Type) (α : Type) : Type
  | done (result : α)
  | ask (call : Call) (next : Answer call → Procedure Call Answer α)

namespace Procedure

variable {Call : Type} {Answer : Call → Type} {α β σ : Type}

def bind (p : Procedure Call Answer α) (f : α → Procedure Call Answer β) : Procedure Call Answer β :=
  match p with
  | done a => f a
  | ask c next => ask c fun answer => (next answer).bind f

instance : Monad (Procedure Call Answer) where
  pure := done
  bind := bind

def call (c : Call) : Procedure Call Answer (Answer c) := ask c done

/-- The same procedure with calls of another kind: `f` gives the call for each call, and `g` reads its
answer. -/
def embed {Call' : Type} {Answer' : Call' → Type} (f : Call → Call')
    (g : (c : Call) → Answer' (f c) → Answer c) : Procedure Call Answer α → Procedure Call' Answer' α
  | done a => done a
  | ask c next => ask (f c) fun answer => (next (g c answer)).embed f g

/-- Carries a procedure out, given the effect of each call. -/
def run (effect : (c : Call) → σ → Answer c × σ) : Procedure Call Answer α → σ → α × σ
  | done a, s => (a, s)
  | ask c next, s =>
    let (answer, s) := effect c s
    (next answer).run effect s

/-- The states after each call, the state at the start first. -/
def stages (effect : (c : Call) → σ → Answer c × σ) : Procedure Call Answer α → σ → List σ
  | done _, s => [s]
  | ask c next, s => s :: (next (effect c s).1).stages effect (effect c s).2

@[simp] theorem run_done (effect : (c : Call) → σ → Answer c × σ) (a : α) (s : σ) :
    (done a : Procedure Call Answer α).run effect s = (a, s) := rfl

@[simp] theorem run_ask (effect : (c : Call) → σ → Answer c × σ) (c : Call)
    (next : Answer c → Procedure Call Answer α) (s : σ) :
    (ask c next).run effect s = (next (effect c s).1).run effect (effect c s).2 := rfl

@[simp] theorem run_bind (effect : (c : Call) → σ → Answer c × σ) (p : Procedure Call Answer α)
    (f : α → Procedure Call Answer β) (s : σ) :
    (p.bind f).run effect s = (f (p.run effect s).1).run effect (p.run effect s).2 := by
  induction p generalizing s with
  | done a => rfl
  | ask c next ih => exact ih _ _

end Procedure

end DeviceSync
