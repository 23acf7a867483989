import MeshOnboard.Dialogue

/-!
# What a conversation yields

`Dialogue.Yields` says that a conversation with an answerer ends with a given result, in whatever
state the answerer is when it begins.  Conversations put together yield what their parts yield, and
ask what their parts ask.  `Dialogue.Settles` says which of several errors a conversation ends with:
the first.  `Dialogue.answers` lists what an answerer says on the way, and
`Dialogue.encounters` what it is asked, and in which states.  `Dialogue.Course` relates a
conversation to the questions and answers that lead it to a result; the course of conversations put
together is taken apart into the courses of the parts.
-/

namespace MeshOnboard.Dialogue

variable {Q : Type} {R : Q → Type} {α β ε σ : Type}

/-- With the answerer, `d` ends with `a`. -/
def Yields (answer : (q : Q) → σ → R q × σ) (d : Dialogue Q R α) (a : α) : Prop :=
  ∀ world, (d.run answer world).1 = a

variable {answer : (q : Q) → σ → R q × σ}

theorem yields_done (a : α) :
  (done a : Dialogue Q R α).Yields answer a
  := fun _ => rfl

/-- A question yields what is made of its answer. -/
theorem yields_query_map {q : Q} {f : R q → α} {r : R q} (h : ∀ world, (answer q world).1 = r) :
  ((query q : Dialogue Q R (R q)).map f).Yields answer (f r)
  := by
  intro world
  change f (answer q world).1 = f r
  rw [h]

theorem Yields.andThen {d : Dialogue Q R (Except ε α)} {a : α}
    {f : α → Dialogue Q R (Except ε β)} {b : Except ε β} (h : d.Yields answer (.ok a))
    (hf : (f a).Yields answer b) :
  (d.andThen f).Yields answer b
  := by
  intro world
  rw [Dialogue.andThen, run_bind, h]
  apply hf

/-- Conversations one after the other yield the list of what each yields. -/
theorem yields_forEach {ι : Type} {f : ι → Dialogue Q R (Except ε α)} {g : ι → α} {xs : List ι}
    (h : ∀ x ∈ xs, (f x).Yields answer (.ok (g x))) :
  (forEach f xs).Yields answer (.ok (xs.map g))
  := by
  induction xs with
  | nil => apply yields_done
  | cons x xs ih =>
    obtain ⟨hx, hxs⟩ := List.forall_mem_cons.1 h
    apply hx.andThen
    apply (ih hxs).andThen
    apply yields_done

theorem Yields.transcript_andThen {d : Dialogue Q R (Except ε α)} {a : α}
    (h : d.Yields answer (.ok a)) (f : α → Dialogue Q R (Except ε β)) (world : σ) :
  (d.andThen f).transcript answer world =
    d.transcript answer world ++ (f a).transcript answer (d.run answer world).2
  := by
  rw [Dialogue.andThen, transcript_bind, h world]

/-- Conversations one after the other ask what each asks. -/
theorem transcript_forEach {ι : Type} {f : ι → Dialogue Q R (Except ε α)} {g : ι → α}
    {asks : ι → List Q} {xs : List ι} (h : ∀ x ∈ xs, (f x).Yields answer (.ok (g x)))
    (hasks : ∀ x ∈ xs, ∀ world, (f x).transcript answer world = asks x) (world : σ) :
  (forEach f xs).transcript answer world = xs.flatMap asks
  := by
  induction xs generalizing world with
  | nil => rfl
  | cons x xs ih =>
    obtain ⟨hx, hxs⟩ := List.forall_mem_cons.1 h
    obtain ⟨asksHere, asksLater⟩ := List.forall_mem_cons.1 hasks
    rw [forEach, hx.transcript_andThen, (yields_forEach hxs).transcript_andThen, asksHere,
      ih hxs asksLater]
    simp [transcript]

/-! ### The first error -/

section FirstError

variable {world world' : σ}

theorem run_andThen_of_ok {d : Dialogue Q R (Except ε α)} {a : α}
    (h : d.run answer world = (.ok a, world')) (f : α → Dialogue Q R (Except ε β)) :
  (d.andThen f).run answer world = (f a).run answer world'
  := by
  rw [Dialogue.andThen, run_bind, h]

theorem fst_run_andThen_of_error {d : Dialogue Q R (Except ε α)} {e : ε}
    (h : (d.run answer world).1 = .error e) (f : α → Dialogue Q R (Except ε β)) :
  ((d.andThen f).run answer world).1 = .error e
  := by
  rw [Dialogue.andThen, run_bind, h]
  rfl

/-- The conversation fails with the first error of a list in which some may be missing, and it
succeeds with a result and in a state of the answerer that are `Good` if all are. -/
structure Settles (answer : (q : Q) → σ → R q × σ) (d : Dialogue Q R (Except ε α)) (world : σ)
    (errors : List (Option ε)) (Good : α → σ → Prop) : Prop where
  failed : ∀ e, errors.findSome? id = some e → (d.run answer world).1 = .error e
  succeeded : errors.findSome? id = none →
    ∃ a world', d.run answer world = (.ok a, world') ∧ Good a world'

/-- A conversation that goes on has the errors of its first part before those of its second. -/
theorem Settles.andThen {d : Dialogue Q R (Except ε α)} {f : α → Dialogue Q R (Except ε β)}
    {errors errors' : List (Option ε)} {Good : α → σ → Prop} {Good' : β → σ → Prop}
    (h : d.Settles answer world errors Good)
    (hf : ∀ a world', Good a world' → (f a).Settles answer world' errors' Good') :
  (d.andThen f).Settles answer world (errors ++ errors') Good'
  where
  failed e first := by
    rw [List.findSome?_append] at first
    cases here : errors.findSome? id with
    | some e' =>
      rw [here, Option.some_or] at first
      obtain rfl := Option.some.inj first
      exact fst_run_andThen_of_error (h.failed e' here) f
    | none =>
      obtain ⟨a, world', run, good⟩ := h.succeeded here
      rw [here, Option.none_or] at first
      rw [run_andThen_of_ok run]
      exact (hf a world' good).failed e first
  succeeded none := by
    rw [List.findSome?_append, Option.or_eq_none_iff] at none
    obtain ⟨a, world', run, good⟩ := h.succeeded none.1
    rw [run_andThen_of_ok run]
    exact (hf a world' good).succeeded none.2

theorem Settles.mono {d : Dialogue Q R (Except ε α)} {errors : List (Option ε)}
    {Good Good' : α → σ → Prop} (h : d.Settles answer world errors Good)
    (imp : ∀ a world', Good a world' → Good' a world') :
  d.Settles answer world errors Good'
  where
  failed := h.failed
  succeeded none := by
    obtain ⟨a, world', run, good⟩ := h.succeeded none
    exact ⟨a, world', run, imp a world' good⟩

theorem settles_of_error {d : Dialogue Q R (Except ε α)} {errors : List (Option ε)}
    {Good : α → σ → Prop} (e : ε) (first : errors.findSome? id = some e)
    (run : (d.run answer world).1 = .error e) :
  d.Settles answer world errors Good
  where
  failed e' first' := by rw [run, Option.some.inj (first.symm.trans first')]
  succeeded none := by rw [first] at none; contradiction

theorem settles_of_ok {d : Dialogue Q R (Except ε α)} {errors : List (Option ε)}
    {Good : α → σ → Prop} (a : α) (world' : σ) (none : errors.findSome? id = none)
    (run : d.run answer world = (.ok a, world')) (good : Good a world') :
  d.Settles answer world errors Good
  where
  failed e first := by rw [none] at first; contradiction
  succeeded _ := ⟨a, world', run, good⟩

theorem settles_done {a : α} {Good : α → σ → Prop} (good : Good a world) :
  (done (.ok a) : Dialogue Q R (Except ε α)).Settles answer world [] Good
  := settles_of_ok a world rfl rfl good

/-- A conversation that settles fails with exactly the first error. -/
theorem Settles.eq_error_iff {d : Dialogue Q R (Except ε α)} {errors : List (Option ε)}
    {Good : α → σ → Prop} (h : d.Settles answer world errors Good) {e : ε} :
  (d.run answer world).1 = .error e ↔ errors.findSome? id = some e
  := by
  refine ⟨fun failed => ?_, h.failed e⟩
  cases first : errors.findSome? id with
  | some e' => rw [← Except.error.inj ((h.failed e' first).symm.trans failed)]
  | none =>
    obtain ⟨a, world', run, -⟩ := h.succeeded first
    rw [run] at failed
    contradiction

/-- A conversation that settles succeeds only if there is no error. -/
theorem Settles.of_ok {d : Dialogue Q R (Except ε α)} {errors : List (Option ε)}
    {Good : α → σ → Prop} (h : d.Settles answer world errors Good) {a : α}
    (ok : (d.run answer world).1 = .ok a) :
  errors.findSome? id = none ∧ Good a (d.run answer world).2
  := by
  cases first : errors.findSome? id with
  | some e =>
    rw [h.failed e first] at ok
    contradiction
  | none =>
    obtain ⟨a', world', run, good⟩ := h.succeeded first
    rw [run] at ok ⊢
    obtain rfl := Except.ok.inj ok
    exact ⟨rfl, good⟩

end FirstError

/-! ### What is said on the way -/

/-- What the answerer says in the conversation, in order. -/
def answers (answer : (q : Q) → σ → R q × σ) : Dialogue Q R α → σ → List ((q : Q) → R q)
  | done _, _ => []
  | ask q next, world =>
    (fun q => (answer q world).1) ::
      (next (answer q world).1).answers answer (answer q world).2

/-- A question with the answer that was given to it. -/
abbrev Exchange (Q : Type) (R : Q → Type) : Type := (q : Q) × R q

/-- The questions that come up while the conversation hears answers, each with its answer. -/
def exchanges : Dialogue Q R α → List ((q : Q) → R q) → List (Exchange Q R)
  | done _, _ => []
  | ask _ _, [] => []
  | ask q next, answer :: answers => ⟨q, answer q⟩ :: (next (answer q)).exchanges answers

/-- The question that a conversation waits at. -/
def question? : Dialogue Q R α → Option Q
  | done _ => none
  | ask q _ => some q

/-- The questions that the conversation puts while it hears answers, the open one among them. -/
def questions (d : Dialogue Q R α) (answers : List ((q : Q) → R q)) : List Q :=
  (d.exchanges answers).map Sigma.fst ++ (d.follow answers).question?.toList

@[simp]
theorem exchanges_nil (d : Dialogue Q R α) :
  d.exchanges [] = []
  := by
  cases d
  · rfl
  · rfl

/-- One more answer is given to the open question. -/
theorem exchanges_concat {d : Dialogue Q R α} {answers : List ((q : Q) → R q)} {q : Q}
    {next : R q → Dialogue Q R α} (h : d.follow answers = ask q next) (answer : (q : Q) → R q) :
  d.exchanges (answers ++ [answer]) = d.exchanges answers ++ [⟨q, answer q⟩]
  := by
  induction d generalizing answers with
  | done a => simp at h
  | ask q' next' ih =>
    cases answers with
    | nil =>
      obtain ⟨rfl, -⟩ := ask.inj h
      simp [exchanges]
    | cons first answers => simp only [exchanges, List.cons_append, ih _ h]

/-- After one more answer the conversation puts the question that follows it. -/
theorem questions_concat {d : Dialogue Q R α} {answers : List ((q : Q) → R q)} {q : Q}
    {next : R q → Dialogue Q R α} (h : d.follow answers = ask q next) (answer : (q : Q) → R q) :
  d.questions (answers ++ [answer]) =
    d.questions answers ++ (next (answer q)).question?.toList
  := by
  simp [questions, exchanges_concat h, follow_append, h, question?]

theorem questions_of_done {d : Dialogue Q R α} {answers : List ((q : Q) → R q)} {a : α}
    (h : d.follow answers = done a) :
  d.questions answers = (d.exchanges answers).map Sigma.fst
  := by
  simp [questions, h, question?]

/-- The exchanges are put together from the questions and the answers. -/
theorem zipWith_questions (d : Dialogue Q R α) (answers : List ((q : Q) → R q)) :
  List.zipWith (fun q answer => (⟨q, answer q⟩ : Exchange Q R)) (d.questions answers) answers =
    d.exchanges answers
  := by
  induction d generalizing answers with
  | done a => simp [questions, exchanges, question?]
  | ask q next ih =>
    cases answers with
    | nil => simp
    | cons answer answers => simpa [questions, exchanges] using ih _ answers

/-! ### The answerer on the way -/

/-- The questions that the conversation with an answerer asks, in order, each with the state in
which the answerer hears it. -/
def encounters (answer : (q : Q) → σ → R q × σ) : Dialogue Q R α → σ → List (Q × σ)
  | done _, _ => []
  | ask q next, world =>
    (q, world) :: (next (answer q world).1).encounters answer (answer q world).2

theorem encounters_bind (answer : (q : Q) → σ → R q × σ) (d : Dialogue Q R α)
    (f : α → Dialogue Q R β) (world : σ) :
  (d.bind f).encounters answer world =
    d.encounters answer world ++ (f (d.run answer world).1).encounters answer (d.run answer world).2
  := by
  induction d generalizing world with
  | done a => rfl
  | ask q next ih =>
    rw [bind_ask, encounters, encounters, run, ih, List.cons_append]

/-- A conversation that goes on meets what its first part meets and, if that succeeds, what its
second part meets. -/
theorem mem_encounters_andThen {d : Dialogue Q R (Except ε α)}
    {f : α → Dialogue Q R (Except ε β)} {world : σ} {x : Q × σ}
    (h : x ∈ (d.andThen f).encounters answer world) :
  x ∈ d.encounters answer world ∨
    ∃ a, (d.run answer world).1 = .ok a ∧ x ∈ (f a).encounters answer (d.run answer world).2
  := by
  rw [Dialogue.andThen, encounters_bind, List.mem_append] at h
  rcases h with here | later
  · exact .inl here
  · right
    cases result : (d.run answer world).1 with
    | ok a =>
      rw [result] at later
      exact ⟨a, rfl, later⟩
    | error e =>
      rw [result] at later
      simp [encounters] at later

/-! ### Courses -/

/-- The conversation consists of the given questions and answers and ends with a result. -/
inductive Course : Dialogue Q R α → List (Exchange Q R) → α → Prop where
  | done (a : α) : Course (done a) [] a
  | ask (q : Q) (r : R q) {next : R q → Dialogue Q R α} {said : List (Exchange Q R)} {a : α}
      (rest : Course (next r) said a) : Course (ask q next) (⟨q, r⟩ :: said) a

/-- What is said on the way to a result is the course to it. -/
theorem course_exchanges {d : Dialogue Q R α} {answers : List ((q : Q) → R q)} {a : α}
    (h : d.follow answers = done a) :
  d.Course (d.exchanges answers) a
  := by
  induction d generalizing answers with
  | done b =>
    rw [follow_done] at h
    obtain rfl := done.inj h
    apply Course.done
  | ask q next ih =>
    cases answers with
    | nil => simp at h
    | cons answer answers => exact .ask q (answer q) (ih _ h)

/-- Of answers without end, a conversation hears finitely many. -/
theorem exists_follow_eq_done (d : Dialogue Q R α) (answers : Nat → (q : Q) → R q) :
  ∃ n a, d.follow ((List.range n).map answers) = .done a ∧
    (d.exchanges ((List.range n).map answers)).length = n
  := by
  induction d generalizing answers with
  | done a => exact ⟨0, a, rfl, rfl⟩
  | ask q next ih =>
    obtain ⟨n, a, ends, length⟩ := ih (answers 0 q) fun k => answers (k + 1)
    refine ⟨n + 1, a, ?_⟩
    rw [List.range_succ_eq_map, List.map_cons, List.map_map]
    exact ⟨ends, congrArg Nat.succ length⟩

namespace Course

variable {said : List (Exchange Q R)}

theorem of_done {a b : α} (h : (Dialogue.done a : Dialogue Q R α).Course said b) :
  said = [] ∧ b = a
  := by
  cases h
  exact ⟨rfl, rfl⟩

/-- A conversation that goes on says what its first part says and then what its second part says. -/
theorem of_bind {d : Dialogue Q R α} {f : α → Dialogue Q R β} {b : β}
    (h : (d.bind f).Course said b) :
  ∃ a first later, said = first ++ later ∧ d.Course first a ∧ (f a).Course later b
  := by
  induction d generalizing said with
  | done a => exact ⟨a, [], said, rfl, .done a, h⟩
  | ask q next ih =>
    cases h with
    | ask _ r rest =>
      obtain ⟨a, first, later, rfl, hd, hf⟩ := ih r rest
      exact ⟨a, _, later, rfl, .ask q r hd, hf⟩

theorem of_query_map {q : Q} {f : R q → α} {a : α}
    (h : ((query q : Dialogue Q R (R q)).map f).Course said a) :
  ∃ r, said = [⟨q, r⟩] ∧ a = f r
  := by
  cases h with
  | ask _ r rest =>
    obtain ⟨rfl, rfl⟩ := rest.of_done
    exact ⟨r, rfl, rfl⟩

/-- A conversation that goes on ends with its first part if that fails, and else with its second. -/
theorem cases_andThen {d : Dialogue Q R (Except ε α)} {f : α → Dialogue Q R (Except ε β)}
    {result : Except ε β} (h : (d.andThen f).Course said result) :
  (∃ e, d.Course said (.error e) ∧ result = .error e) ∨
    ∃ a first later, said = first ++ later ∧ d.Course first (.ok a) ∧ (f a).Course later result
  := by
  obtain ⟨ending, first, later, rfl, hd, hf⟩ := of_bind h
  cases ending with
  | ok a => exact .inr ⟨a, first, later, rfl, hd, hf⟩
  | error e =>
    obtain ⟨rfl, hresult⟩ := hf.of_done
    rw [List.append_nil]
    exact .inl ⟨e, hd, hresult⟩

theorem cases_andThen_done {d : Dialogue Q R (Except ε α)} {f : α → β} {result : Except ε β}
    (h : (d.andThen fun a => .done (.ok (f a))).Course said result) :
  ∃ ending, d.Course said ending ∧ result = ending.map f
  := by
  rcases h.cases_andThen with ⟨e, hd, rfl⟩ | ⟨a, first, later, rfl, hd, hf⟩
  · exact ⟨.error e, hd, rfl⟩
  · obtain ⟨rfl, rfl⟩ := hf.of_done
    rw [List.append_nil]
    exact ⟨.ok a, hd, rfl⟩

/-- A conversation that goes on succeeds only if its first part does. -/
theorem of_andThen {d : Dialogue Q R (Except ε α)} {f : α → Dialogue Q R (Except ε β)} {b : β}
    (h : (d.andThen f).Course said (.ok b)) :
  ∃ a first later, said = first ++ later ∧ d.Course first (.ok a) ∧ (f a).Course later (.ok b)
  := by
  rcases h.cases_andThen with ⟨e, -, failed⟩ | succeeded
  · contradiction
  · exact succeeded

theorem of_andThen_done {d : Dialogue Q R (Except ε α)} {f : α → β} {b : β}
    (h : (d.andThen fun a => .done (.ok (f a))).Course said (.ok b)) :
  ∃ a, d.Course said (.ok a) ∧ b = f a
  := by
  obtain ⟨ending, hd, hb⟩ := h.cases_andThen_done
  cases ending with
  | ok a => exact ⟨a, hd, Except.ok.inj hb⟩
  | error e => contradiction

/-- If what each of the conversations says and yields is read off some record of it, what they say
and yield one after the other is read off the list of these records. -/
theorem of_forEach {ι V : Type} {f : ι → Dialogue Q R (Except ε α)} {key : V → ι}
    {talk : V → List (Exchange Q R)} {result : V → α} {Good : V → Prop}
    (hf : ∀ x said a, (f x).Course said (.ok a) →
      ∃ v, key v = x ∧ Good v ∧ said = talk v ∧ a = result v)
    {xs : List ι} {as : List α} (h : (forEach f xs).Course said (.ok as)) :
  ∃ vs : List V, vs.map key = xs ∧ (∀ v ∈ vs, Good v) ∧ said = vs.flatMap talk ∧ as = vs.map result
  := by
  induction xs generalizing said as with
  | nil =>
    obtain ⟨rfl, none⟩ := h.of_done
    exact ⟨[], rfl, by simp, rfl, Except.ok.inj none⟩
  | cons x xs ih =>
    obtain ⟨a, first, later, rfl, hx, hrest⟩ := h.of_andThen
    obtain ⟨as, hxs, rfl⟩ := hrest.of_andThen_done
    obtain ⟨v, rfl, good, rfl, rfl⟩ := hf x first a hx
    obtain ⟨vs, rfl, goods, rfl, rfl⟩ := ih hxs
    exact ⟨v :: vs, rfl, List.forall_mem_cons.2 ⟨good, goods⟩, rfl, rfl⟩

/-- Whatever they come to, conversations one after the other get through the first few elements, and
through all of them if they succeed. -/
theorem cases_forEach {ι V : Type} {f : ι → Dialogue Q R (Except ε α)} {key : V → ι}
    {talk : V → List (Exchange Q R)} {Good : V → Prop}
    (hf : ∀ x said result, (f x).Course said result → ∃ v, key v = x ∧ Good v ∧ said = talk v)
    {xs : List ι} {result : Except ε (List α)} (h : (forEach f xs).Course said result) :
  ∃ vs : List V, vs.map key <+: xs ∧ (∀ v ∈ vs, Good v) ∧ said = vs.flatMap talk ∧
    ∀ as, result = .ok as → vs.map key = xs
  := by
  induction xs generalizing said result with
  | nil =>
    obtain ⟨rfl, -⟩ := h.of_done
    exact ⟨[], List.prefix_refl [], by simp, rfl, fun _ _ => rfl⟩
  | cons x xs ih =>
    rcases h.cases_andThen with ⟨e, hx, rfl⟩ | ⟨a, first, later, rfl, hx, hrest⟩
    · obtain ⟨v, rfl, good, rfl⟩ := hf x said _ hx
      exact ⟨[v], by simp, by simpa using good, by simp, nofun⟩
    · obtain ⟨v, rfl, good, rfl⟩ := hf x first _ hx
      obtain ⟨ending, hxs, rfl⟩ := hrest.cases_andThen_done
      obtain ⟨vs, through, goods, rfl, all⟩ := ih hxs
      refine ⟨v :: vs, List.cons_prefix_cons.2 ⟨rfl, through⟩, List.forall_mem_cons.2 ⟨good, goods⟩,
        rfl, fun _ h => ?_⟩
      cases ending with
      | ok as => rw [List.map_cons, all as rfl]
      | error e => contradiction

end Course

end MeshOnboard.Dialogue
