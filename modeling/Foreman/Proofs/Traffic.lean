import Foreman.Proofs.Plan
import Foreman.Site

/-!
# Traffic on the bus

What work does to the bus depends on little: on the signals that it takes off and puts on, and on
those that others put there in between. `Traffic` follows a piece of work question by question and
keeps only this. The bus answers as a queue does; the answers to all other questions may be
anything, so whatever holds of all traffic holds with any store, any clock, any collaborator, and
with handlers that succeed and fail as they please.

Others can only add to the queue, and they can do so before any question (`arrives` says which
signals they may add). Nobody else takes signals off: the bus has one receiving end.

Traffic composes as the work does (`Traffic.of_bind`), and running work at a site is traffic without
arrivals (`Site.traffic_run`), so a run is there for every piece of work and every queue.
-/

namespace Foreman

/-! ### What the bus is to a question -/

namespace Ask

/-- What the bus answers. The answers to all other questions are free. -/
def Admits (receiving : Bool) (queue : List Signal) : (q : Ask) → q.Reply → Prop
  | .busOpen, reply => reply = receiving
  | .enqueue _, reply => reply = receiving
  | .receive, reply => reply = queue.head?
  | _, _ => True

/-- The signals that a question puts on the bus. -/
def puts (receiving : Bool) : Ask → List Signal
  | .enqueue s => if receiving then [s] else []
  | _ => []

/-- How many signals a question takes off the bus. -/
def takes : Ask → Nat
  | .receive => 1
  | _ => 0

theorem takes_eq_zero {q : Ask} (h : q ≠ .receive) : q.takes = 0 := by
  cases q <;> first | rfl | exact absurd rfl h

theorem puts_eq_nil {q : Ask} (h : ∀ s, q ≠ .enqueue s) (receiving : Bool) :
    q.puts receiving = [] := by
  cases q <;> first | rfl | exact absurd rfl (h _)

end Ask

/-! ### Traffic -/

/-- **What a piece of work does to the bus**: the queue that it finds, the signals that come onto
the bus until it is finished, in order and from whomever, its result, and the queue that it leaves.
-/
inductive Traffic (arrives : Signal → Prop) (receiving : Bool) {ε α : Type} :
    Work ε α → List Signal → List Signal → Except (Halt ε) α → List Signal → Prop where
  | done (a : α) (queue : List Signal) : Traffic arrives receiving (.done a) queue [] (.ok a) queue
  | halt (h : Halt ε) (queue : List Signal) :
    Traffic arrives receiving (.halt h) queue [] (.error h) queue
  | ask {q : Ask} {next : q.Reply → Work ε α} {queue arrivals put queue' : List Signal}
      {reply : q.Reply} {result : Except (Halt ε) α} (harrivals : ∀ s ∈ arrivals, arrives s)
      (hreply : q.Admits receiving (queue ++ arrivals) reply)
      (h : Traffic arrives receiving (next reply)
        ((queue ++ arrivals).drop q.takes ++ q.puts receiving) put result queue') :
    Traffic arrives receiving (.ask q next) queue (arrivals ++ q.puts receiving ++ put) result
      queue'

namespace Traffic

variable {arrives : Signal → Prop} {receiving : Bool} {ε α β : Type}
  {queue put queue' : List Signal}

theorem of_done {a : α} {result : Except (Halt ε) α}
    (h : Traffic arrives receiving (.done a : Work ε α) queue put result queue') :
    put = [] ∧ result = .ok a ∧ queue' = queue := by
  cases h
  exact ⟨rfl, rfl, rfl⟩

/-- A question is asked behind whatever others put on the bus before it. -/
theorem of_ask {q : Ask} {next : q.Reply → Work ε α} {result : Except (Halt ε) α}
    (h : Traffic arrives receiving (.ask q next) queue put result queue') :
    ∃ arrivals put' reply, put = arrivals ++ q.puts receiving ++ put' ∧
      (∀ s ∈ arrivals, arrives s) ∧ q.Admits receiving (queue ++ arrivals) reply ∧
      Traffic arrives receiving (next reply)
        ((queue ++ arrivals).drop q.takes ++ q.puts receiving) put' result queue' := by
  cases h with
  | ask harrivals hreply h => exact ⟨_, _, _, rfl, harrivals, hreply, h⟩

/-- **The traffic of a sequence** is that of its first part, which halted, or that of its first part
and behind it that of its second. -/
theorem of_bind {p : Work ε α} {f : α → Work ε β} {result : Except (Halt ε) β}
    (h : Traffic arrives receiving (p >>= f) queue put result queue') :
    (∃ e, result = .error e ∧ Traffic arrives receiving p queue put (.error e) queue') ∨
      ∃ a put₁ put₂ queue₁, put = put₁ ++ put₂ ∧
        Traffic arrives receiving p queue put₁ (.ok a) queue₁ ∧
        Traffic arrives receiving (f a) queue₁ put₂ result queue' := by
  induction p generalizing queue put with
  | done a => exact .inr ⟨a, [], put, queue, rfl, .done a queue, h⟩
  | halt e =>
    cases h
    exact .inl ⟨e, rfl, .halt e _⟩
  | ask q next ih =>
    cases h with
    | ask harrivals hreply h =>
      rcases ih _ h with ⟨e, rfl, hp⟩ | ⟨a, put₁, put₂, queue₁, rfl, hp, hf⟩
      · exact .inl ⟨e, rfl, .ask harrivals hreply hp⟩
      · refine .inr ⟨a, _, put₂, queue₁, ?_, .ask harrivals hreply hp, hf⟩
        simp only [List.append_assoc]

/-- What holds of a plan's results whatever the answers are holds of the result. -/
theorem always {P : α → Prop} {p : Work ε α} {a : α}
    (h : Traffic arrives receiving p queue put (.ok a) queue') (hp : p.Always P) : P a := by
  induction p generalizing queue put with
  | done b =>
    obtain ⟨-, hr, -⟩ := h.of_done
    obtain rfl := Except.ok.inj hr
    exact hp
  | halt e => cases h
  | ask q next ih =>
    cases h with
    | ask _ _ h => exact ih _ h (hp _)

/-- **First in, first out**: work that takes nothing off the bus leaves the queue that it found, and
behind it whatever came onto the bus meanwhile. -/
theorem queue_eq_append {p : Work ε α} {result : Except (Halt ε) α}
    (h : Traffic arrives receiving p queue put result queue') (hp : p.Asks (· ≠ .receive)) :
    queue' = queue ++ put := by
  induction h with
  | done => simp
  | halt => simp
  | ask _ _ _ ih =>
    rw [ih (hp.2 _), Ask.takes_eq_zero hp.1]
    simp only [List.drop_zero, List.append_assoc]

/-- What comes onto the bus arrives from elsewhere or is put there by the work. -/
theorem forall_mem_put {P : Signal → Prop} {p : Work ε α} {result : Except (Halt ε) α}
    (h : Traffic arrives receiving p queue put result queue')
    (hp : p.Asks fun q ↦ ∀ s, q = .enqueue s → P s) (harrives : ∀ s, arrives s → P s) :
    ∀ s ∈ put, P s := by
  induction h with
  | done => exact List.forall_mem_nil _
  | halt => exact List.forall_mem_nil _
  | @ask q _ _ arrivals _ _ _ _ harrivals _ _ ih =>
    have hputs : ∀ s ∈ q.puts receiving, P s := by
      intro s hs
      cases q with
      | enqueue signal =>
        simp only [Ask.puts] at hs
        split at hs
        · obtain rfl := List.mem_singleton.1 hs
          exact hp.1 s rfl
        · cases hs
      | _ => cases hs
    simp only [List.forall_mem_append]
    exact ⟨⟨fun s hs ↦ harrives s (harrivals s hs), hputs⟩, ih (hp.2 _)⟩

/-- Work that puts nothing on the bus, while nobody else does, can only shorten the queue. -/
theorem suffix_of_silent {p : Work ε α} {result : Except (Halt ε) α}
    (h : Traffic (fun _ ↦ False) receiving p queue put result queue')
    (hp : p.Asks fun q ↦ ∀ s, q ≠ .enqueue s) : put = [] ∧ queue' <:+ queue := by
  induction h with
  | done => exact ⟨rfl, List.suffix_refl _⟩
  | halt => exact ⟨rfl, List.suffix_refl _⟩
  | ask harrivals _ _ ih =>
    obtain ⟨rfl, hsuffix⟩ := ih (hp.2 _)
    obtain rfl := List.eq_nil_iff_forall_not_mem.2 harrivals
    rw [Ask.puts_eq_nil hp.1] at hsuffix ⊢
    rw [List.append_nil, List.append_nil] at hsuffix
    exact ⟨rfl, hsuffix.trans (List.drop_suffix _ _)⟩

end Traffic

/-! ### Sites -/

namespace Site

/-- A site answers as a bus does, and keeps the queue that a bus has. -/
theorem answer_bus (q : Ask) (s : Site) :
    q.Admits s.receiving s.queue (s.answer q).1 ∧
      (s.answer q).2.queue = s.queue.drop q.takes ++ q.puts s.receiving ∧
      (s.answer q).2.receiving = s.receiving := by
  cases q with
  | enqueue signal =>
    cases hs : s.receiving <;> simp [answer, Ask.Admits, Ask.takes, Ask.puts, hs]
  | _ => simp [answer, Ask.Admits, Ask.takes, Ask.puts]

/-- **Running work at a site is traffic**, and nobody else puts signals on the bus. -/
theorem traffic_run {ε α : Type} (arrives : Signal → Prop) (w : Work ε α) (s : Site) :
    ∃ put, Traffic arrives s.receiving w s.queue put (s.run w).1 (s.run w).2.queue := by
  induction w generalizing s with
  | done a => exact ⟨[], .done a s.queue⟩
  | halt h => exact ⟨[], .halt h s.queue⟩
  | ask q next ih =>
    obtain ⟨hreply, hqueue, hreceiving⟩ := answer_bus q s
    obtain ⟨put, h⟩ := ih (s.answer q).1 (s.answer q).2
    rw [hqueue, hreceiving, ← List.append_nil s.queue] at h
    rw [← List.append_nil s.queue] at hreply
    exact ⟨_, .ask (List.forall_mem_nil _) hreply h⟩

end Site

end Foreman
