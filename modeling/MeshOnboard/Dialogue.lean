/-!
# Dialogues

A `Dialogue Q R α` is a conversation that asks questions `q : Q`, is answered with an `R q` each
time, and ends with an `α`.  It may stop between a question and its answer, which is how a
conversation is suspended, resumed and given up.  Every dialogue ends, whatever the answers are.
`Dialogue.run` holds a dialogue with an answerer that has a state of its own, and
`Dialogue.transcript` lists the questions that come up on the way.  `Dialogue.follow` is what is
still to be said after some answers.
-/

namespace MeshOnboard

universe u

/-- A conversation that ends with an `α`. -/
inductive Dialogue (Q : Type) (R : Q → Type) (α : Type u) where
  | done (result : α)
  | ask (question : Q) (next : R question → Dialogue Q R α)

namespace Dialogue

variable {Q : Type} {R : Q → Type} {α β γ : Type u}

/-- The conversation that goes on with `f` where `d` ends. -/
def bind (d : Dialogue Q R α) (f : α → Dialogue Q R β) : Dialogue Q R β :=
  match d with
  | done a => f a
  | ask q next => ask q fun r => (next r).bind f

/-- The conversation with its result changed by `f`. -/
def map (f : α → β) (d : Dialogue Q R α) : Dialogue Q R β :=
  d.bind fun a => done (f a)

/-- The conversation that asks one question and ends with its answer. -/
def query (q : Q) : Dialogue Q R (R q) := ask q done

@[simp]
theorem bind_done (a : α) (f : α → Dialogue Q R β) :
  (done a : Dialogue Q R α).bind f = f a
  := rfl

@[simp]
theorem bind_ask (q : Q) (next : R q → Dialogue Q R α) (f : α → Dialogue Q R β) :
  (ask q next).bind f = ask q fun r => (next r).bind f
  := rfl

theorem bind_done_right (d : Dialogue Q R α) :
  d.bind done = d
  := by
  induction d with
  | done a => rfl
  | ask q next ih => simp only [bind_ask, ih]

theorem bind_assoc (d : Dialogue Q R α) (f : α → Dialogue Q R β) (g : β → Dialogue Q R γ) :
  (d.bind f).bind g = d.bind fun a => (f a).bind g
  := by
  induction d with
  | done a => rfl
  | ask q next ih => simp only [bind_ask, ih]

/-! ### Conversations that may fail -/

section Failing

variable {ε : Type u}

/-- The conversation that goes on with `f` where `d` succeeds and ends where `d` fails. -/
def andThen (d : Dialogue Q R (Except ε α)) (f : α → Dialogue Q R (Except ε β)) :
    Dialogue Q R (Except ε β) :=
  d.bind fun
    | .ok a => f a
    | .error e => done (.error e)

/-- The conversations `f x` for each element, one after the other, with the list of their results;
the first that fails ends it. -/
def forEach {ι : Type} (f : ι → Dialogue Q R (Except ε α)) :
    List ι → Dialogue Q R (Except ε (List α))
  | [] => done (.ok [])
  | x :: xs =>
    (f x).andThen fun a =>
      (forEach f xs).andThen fun as => done (.ok (a :: as))

@[simp]
theorem andThen_done_ok (a : α) (f : α → Dialogue Q R (Except ε β)) :
  (done (.ok a) : Dialogue Q R (Except ε α)).andThen f = f a
  := rfl

@[simp]
theorem andThen_done_error (e : ε) (f : α → Dialogue Q R (Except ε β)) :
  (done (.error e) : Dialogue Q R (Except ε α)).andThen f = done (.error e)
  := rfl

@[simp]
theorem andThen_ask (q : Q) (next : R q → Dialogue Q R (Except ε α))
    (f : α → Dialogue Q R (Except ε β)) :
  (ask q next).andThen f = ask q fun r => (next r).andThen f
  := rfl

end Failing

/-! ### Holding a conversation -/

section Run

variable {α : Type} {σ : Type}

/-- The result of the conversation with an answerer, and the answerer's state after it. -/
def run (answer : (q : Q) → σ → R q × σ) : Dialogue Q R α → σ → α × σ
  | done a, s => (a, s)
  | ask q next, s =>
    let (r, s) := answer q s
    (next r).run answer s

/-- The questions that the conversation with an answerer asks, in order. -/
def transcript (answer : (q : Q) → σ → R q × σ) : Dialogue Q R α → σ → List Q
  | done _, _ => []
  | ask q next, s =>
    let (r, s) := answer q s
    q :: (next r).transcript answer s

theorem run_bind {β : Type} (answer : (q : Q) → σ → R q × σ) (d : Dialogue Q R α)
    (f : α → Dialogue Q R β) (s : σ) :
  (d.bind f).run answer s = (f (d.run answer s).1).run answer (d.run answer s).2
  := by
  induction d generalizing s with
  | done a => rfl
  | ask q next ih => exact ih _ _

theorem transcript_bind {β : Type} (answer : (q : Q) → σ → R q × σ) (d : Dialogue Q R α)
    (f : α → Dialogue Q R β) (s : σ) :
  (d.bind f).transcript answer s =
    d.transcript answer s ++ (f (d.run answer s).1).transcript answer (d.run answer s).2
  := by
  induction d generalizing s with
  | done a => rfl
  | ask q next ih =>
    simp only [bind_ask, transcript, run, List.cons_append]
    rw [ih]

end Run

/-! ### The rest of a conversation -/

section Follow

/-- What is still to be said after some answers; answers beyond the end are not heard. -/
def follow : Dialogue Q R α → List ((q : Q) → R q) → Dialogue Q R α
  | done a, _ => done a
  | ask q next, [] => ask q next
  | ask q next, answer :: answers => (next (answer q)).follow answers

@[simp]
theorem follow_done (a : α) (answers : List ((q : Q) → R q)) :
  (done a : Dialogue Q R α).follow answers = done a
  := by
  simp only [follow]

@[simp]
theorem follow_nil (d : Dialogue Q R α) :
  d.follow [] = d
  := by
  cases d
  · rfl
  · rfl

@[simp]
theorem follow_ask_cons (q : Q) (next : R q → Dialogue Q R α) (answer : (q : Q) → R q)
    (answers : List ((q : Q) → R q)) :
  (ask q next).follow (answer :: answers) = (next (answer q)).follow answers
  := rfl

theorem follow_append (d : Dialogue Q R α) (answers later : List ((q : Q) → R q)) :
  d.follow (answers ++ later) = (d.follow answers).follow later
  := by
  induction d generalizing answers with
  | done a => simp
  | ask q next ih =>
    cases answers with
    | nil => simp
    | cons answer answers => apply ih

end Follow

end Dialogue

end MeshOnboard
