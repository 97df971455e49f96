/-
Programs that ask their surroundings: a program is either done or asks one request and goes on
with the reply. What answers the requests is left open, so the same program can be run on any
model of its surroundings, step by step among other programs, or against any failures.
-/
namespace Rollout

/-- The requests that a program can make, and what each is answered with. -/
structure Interface where
  Request : Type
  Reply : Request → Type

/-- A program with results in `α` over an interface. -/
inductive Program (I : Interface) (α : Type) : Type where
  | done (result : α)
  | ask (request : I.Request) (next : I.Reply request → Program I α)

namespace Program

variable {I : Interface} {α β : Type}

/-- One program after another. -/
def bind (p : Program I α) (f : α → Program I β) : Program I β :=
  match p with
  | .done a => f a
  | .ask request next => .ask request fun reply => (next reply).bind f

instance : Monad (Program I) where
  pure := .done
  bind := bind

/-- The program that makes one request and answers the reply. -/
def request (r : I.Request) : Program I (I.Reply r) := .ask r .done

/-- Runs a program with the requests answered in a monad. -/
def run {m : Type → Type} [Monad m] (answer : (r : I.Request) → m (I.Reply r)) :
    Program I α → m α
  | .done a => pure a
  | .ask r next => do (next (← answer r)).run answer

@[simp] theorem pure_eq (a : α) : (pure a : Program I α) = .done a := rfl

@[simp] theorem bind_eq (p : Program I α) (f : α → Program I β) : p >>= f = p.bind f := rfl

@[simp] theorem done_bind (a : α) (f : α → Program I β) : (done a).bind f = f a := rfl

@[simp] theorem ask_bind (r : I.Request) (next : I.Reply r → Program I α)
    (f : α → Program I β) : (ask r next).bind f = ask r fun reply => (next reply).bind f := rfl

@[simp] theorem bind_done (p : Program I α) : p.bind done = p := by
  induction p with
  | done a => rfl
  | ask r next ih => simp [bind, ih]

theorem bind_assoc {γ : Type} (p : Program I α) (f : α → Program I β) (g : β → Program I γ) :
    (p.bind f).bind g = p.bind fun a => (f a).bind g := by
  induction p with
  | done a => rfl
  | ask r next ih => simp [bind, ih]

instance : LawfulMonad (Program I) :=
  LawfulMonad.mk' _ (fun p => bind_done p) (fun _ _ => rfl) bind_assoc

end Program

end Rollout
