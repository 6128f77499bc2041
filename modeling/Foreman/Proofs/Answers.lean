import Foreman.Proofs.Dialogue
import Foreman.Proofs.Store.History
import Foreman.Site
import Foreman.Sql.Server

/-!
# What work is answered

Conditions on the answers in a dialogue of work. The store **succeeds** when it does everything that
it is asked, and it is **steady** when nothing but a lease makes it crash; the bus **delivers** when
somebody receives what is put on it. Stores in memory and databases are steady whatever happens to
them (`Site.steady_transcript`, `Sql.Premises.steady_transcript`).

A store in memory **serves** a dialogue when each request of it was carried out on what the requests
before it had left, or failed and had no effect (`Memory.Serves`). Which requests may fail is a
parameter; a site serves its own runs (`Site.RefusesOnly.serves_transcript`).
-/

namespace Foreman

open Time Store

namespace Ask

/-- The store does what it is asked. -/
def Succeeds : (q : Ask) → q.Reply → Prop
  | .store _, reply => ∃ v, reply = .ok v
  | _, _ => True

/-- Somebody receives what is put on the bus. -/
def Delivers : (q : Ask) → q.Reply → Prop
  | .busOpen, reply => reply = true
  | .enqueue _, reply => reply = true
  | _, _ => True

/-- The question asks for a lease. -/
def AsksLease : Ask → Prop
  | .store (.acquireLease ..) => True
  | _ => False

/-- A lease that is asked for ends within the calendar. -/
def LeaseEnds : Ask → Prop
  | .store (.acquireLease _ _ seconds now) => (leaseEnd? seconds now).isSome
  | _ => True

/-- No request crashes. -/
def Calm : (q : Ask) → q.Reply → Prop
  | .store _, reply => reply ≠ .error .crash
  | _, _ => True

theorem LeaseEnds.of_not_asksLease {q : Ask} (h : ¬ q.AsksLease) : q.LeaseEnds := by
  unfold LeaseEnds
  split
  · exact absurd trivial h
  · trivial

/-- No request crashes, unless it asks for a lease. -/
def Steady (q : Ask) (reply : q.Reply) : Prop :=
  match q, reply with
  | .store rq, reply => reply = .error .crash → (Ask.store rq).AsksLease
  | _, _ => True

theorem Calm.steady {q : Ask} {reply : q.Reply} (h : q.Calm reply) : q.Steady reply := by
  cases q with
  | store rq => exact fun hcrash ↦ absurd hcrash h
  | _ => trivial

end Ask

/-- Every answer of a dialogue is as expected. -/
def Answers (R : (q : Ask) → q.Reply → Prop) (es : List (Answered Ask.Reply)) : Prop :=
  ∀ e ∈ es, R e.question e.reply

variable {R : (q : Ask) → q.Reply → Prop} {es es' : List (Answered Ask.Reply)}

@[simp] theorem answers_nil : Answers R [] := List.forall_mem_nil _

@[simp] theorem answers_cons {e : Answered Ask.Reply} :
    Answers R (e :: es) ↔ R e.question e.reply ∧ Answers R es := List.forall_mem_cons

@[simp] theorem answers_append : Answers R (es ++ es') ↔ Answers R es ∧ Answers R es' :=
  List.forall_mem_append

/-- A sequence that begins with a request ends with its halt, or goes on with its value. -/
theorem Work.dialogue_store_bind {α : Type} {rq : Request} {f : rq.Value → Work StoreError α}
    {result : Except (Halt StoreError) α} (h : (Work.store rq >>= f).Dialogue es result) :
    (∃ halt, es = [⟨.store rq, .error halt⟩] ∧ result = .error halt) ∨
      ∃ v rest, es = ⟨.store rq, .ok v⟩ :: rest ∧ (f v).Dialogue rest result := by
  obtain ⟨reply, rest, rfl, h⟩ := h
  cases reply with
  | error halt =>
    obtain ⟨rfl, rfl⟩ := h
    exact .inl ⟨halt, rfl, rfl⟩
  | ok v => exact .inr ⟨v, rest, rfl, h⟩

/-! ### Steady stores -/

namespace Store

/-- A store in memory crashes over nothing but the end of a lease. -/
theorem Memory.perform_ne_crash (m : Memory) (clock : Instant) (fresh : Uuid) {rq : Request}
    (h : ¬ (Ask.store rq).AsksLease) : (m.perform clock fresh rq).1 ≠ .error .crash := by
  cases rq with
  | acquireLease => exact absurd trivial h
  | _ =>
    simp only [perform, withTasks, answered]
    repeat' split
    all_goals
      intro hcrash
      cases hcrash

theorem Rehearsal.perform_ne_crash (r : Rehearsal) (clock : Instant) (fresh : Uuid) {rq : Request}
    (h : ¬ (Ask.store rq).AsksLease) : (r.perform clock fresh rq).1 ≠ .error .crash := by
  simp only [perform]
  split
  · intro hcrash
    cases hcrash
  · split
    · exact absurd trivial h
    · exact Memory.perform_ne_crash _ clock fresh h
    · exact Memory.perform_ne_crash _ clock fresh h

end Store

/-- **A site is steady**, whatever is planned for its store. -/
theorem Site.steady_transcript {ε α : Type} (s : Site) (w : Work ε α) :
    Answers Ask.Steady (w.transcript Site.answer s) := by
  refine Plan.forall_mem_transcript (P := fun e ↦ e.question.Steady e.reply) (fun q s ↦ ?_) w s
  cases q with
  | store rq =>
    intro hcrash
    refine Classical.byContradiction fun h ↦ ?_
    exact Rehearsal.perform_ne_crash s.store s.clock s.ids.next h hcrash
  | _ => trivial

namespace Sql

/-- A plan over statements does not crash. -/
def Query.Safe {α : Type} (q : Query α) : Prop :=
  q.Yields (fun _ _ ↦ True) (· ≠ .error .crash)

namespace Query

variable {α β : Type}

theorem Safe.bind {q : Query α} {f : α → Query β} (hq : q.Safe) (hf : ∀ a, (f a).Safe) :
    Safe (q >>= f) :=
  Plan.Yields.bind hq (fun _ h hcrash ↦ h (Except.error.inj hcrash ▸ rfl)) fun a _ ↦ hf a

theorem safe_pure (a : α) : Safe (pure a : Query α) := by
  intro hcrash
  cases hcrash

theorem safe_execute (s : Statement) : (execute s).Safe := by
  rintro (_ | outcome) - hcrash
  · cases hcrash
  · cases hcrash

theorem safe_decoded (v : Option α) : (decoded v).Safe := by
  cases v with
  | none =>
    intro hcrash
    cases hcrash
  | some v => exact safe_pure v

theorem safe_first? (s : Statement) (read : Row → Option α) : (first? s read).Safe := by
  refine Safe.bind (safe_execute s) fun outcome ↦ ?_
  split
  · exact Safe.bind (safe_decoded _) fun a ↦ safe_pure _
  · exact safe_pure _

theorem safe_rows (s : Statement) (read : Row → Option α) : (rows s read).Safe :=
  Safe.bind (safe_execute s) fun _ ↦ safe_decoded _

/-- Carrying out a request crashes over nothing but the end of a lease. -/
theorem safe_ofRequest {rq : Request} (h : ¬ (Ask.store rq).AsksLease) : (ofRequest rq).Safe := by
  cases rq with
  | acquireLease => exact absurd trivial h
  | upsert t => exact Safe.bind (safe_first? _ _) fun _ ↦ safe_decoded _
  | getTask id => exact safe_first? _ _
  | listTasks => exact safe_rows _ _
  | listRunnable now limit => exact safe_rows _ _
  | releaseLease id worker => exact Safe.bind (safe_execute _) fun _ ↦ safe_pure _
  | reschedule id worker nextRun status => exact Safe.bind (safe_execute _) fun _ ↦ safe_pure _
  | getCheckpoint id => exact safe_first? _ _
  | saveCheckpoint id state taskState expected =>
    refine Safe.bind (safe_first? _ _) fun version ↦ ?_
    split
    · exact safe_pure _
    · exact Safe.bind (safe_first? _ _) fun _ ↦ safe_pure _
  | appendEvent task type payload correlation =>
    intro id _ now _
    change Safe (execute (.insertEvent ⟨id, task, type, payload, correlation, now⟩) >>= _)
    exact Safe.bind (safe_execute _) fun _ ↦ safe_pure _
  | eventsSince since => exact safe_rows _ _
  | latestEvent task type => exact safe_first? _ _

end Query

/-- **A database is steady**, whatever the script of its server says. -/
theorem Premises.steady_transcript {ε α : Type} (p : Premises) (w : Work ε α) :
    Answers Ask.Steady (w.transcript Premises.answer p) := by
  refine Plan.forall_mem_transcript (P := fun e ↦ e.question.Steady e.reply) (fun q p ↦ ?_) w p
  cases q with
  | store rq =>
    intro hcrash
    refine Classical.byContradiction fun h ↦ ?_
    have hdialogue := (Query.ofRequest rq).dialogue_run Premises.answerQuery p
    exact hdialogue.of_yields (fun _ _ ↦ trivial) (Query.safe_ofRequest h) hcrash
  | _ => trivial

end Sql

/-! ### A store in memory -/

namespace Store.Memory

/-- How a store in memory answers one question: a request is carried out, or it fails and has no
effect. -/
def Replies (mayFail : Request → Prop) (m : Memory) : (q : Ask) → q.Reply → Memory → Prop
  | .store rq, reply, m' =>
    (∃ clock fresh, m.perform clock fresh rq = (reply, m')) ∨
      mayFail rq ∧ (∃ e, reply = .error (.error e)) ∧ m' = m
  | _, _, m' => m' = m

/-- **A store in memory serves a dialogue**, and leaves this behind. -/
def Serves (mayFail : Request → Prop) : Memory → List (Answered Ask.Reply) → Memory → Prop
  | m, [], m' => m' = m
  | m, e :: rest, m' => ∃ m₁, m.Replies mayFail e.question e.reply m₁ ∧ m₁.Serves mayFail rest m'

variable {mayFail : Request → Prop} {m m' : Memory}

@[simp] theorem serves_nil : m.Serves mayFail [] m' ↔ m' = m := Iff.rfl

theorem serves_cons {e : Answered Ask.Reply} :
    m.Serves mayFail (e :: es) m' ↔
      ∃ m₁, m.Replies mayFail e.question e.reply m₁ ∧ m₁.Serves mayFail es m' := Iff.rfl

/-- A request that has a value was carried out. -/
theorem Serves.of_ok {rq : Request} {v : rq.Value}
    (h : m.Serves mayFail (⟨.store rq, .ok v⟩ :: es) m') :
    ∃ clock fresh m₁, m.perform clock fresh rq = (.ok v, m₁) ∧ m₁.Serves mayFail es m' := by
  obtain ⟨m₁, ⟨clock, fresh, hperform⟩ | ⟨-, ⟨e, he⟩, -⟩, hrest⟩ := h
  · exact ⟨clock, fresh, m₁, hperform, hrest⟩
  · cases he

/-- What is listed as runnable is what the store lists, so the table is not poisoned. -/
theorem Serves.listed {now : Instant} {limit : Nat} {batch : List Task}
    (h : m.Serves mayFail (⟨.store (.listRunnable now limit), .ok batch⟩ :: es) m') :
    m.poisoned = false ∧ batch = m.listRunnable now limit ∧ m.Serves mayFail es m' := by
  obtain ⟨clock, fresh, m₁, hlisted, hrest⟩ := h.of_ok
  simp only [perform, withTasks] at hlisted
  split at hlisted
  · cases hlisted
  · next hhealthy =>
    cases hlisted
    exact ⟨by simpa using hhealthy, rfl, hrest⟩

/-- A table that is not poisoned is listed. -/
theorem serves_listRunnable (hm : m.poisoned = false) (now : Instant) (limit : Nat)
    (h : m.Serves mayFail es m') :
    m.Serves mayFail (⟨.store (.listRunnable now limit), .ok (m.listRunnable now limit)⟩ :: es) m' :=
  ⟨m, .inl ⟨now, ⟨0⟩, by simp only [perform, withTasks, hm, Bool.false_eq_true, if_false]⟩, h⟩

theorem serves_append :
    m.Serves mayFail (es ++ es') m' ↔ ∃ m₁, m.Serves mayFail es m₁ ∧ m₁.Serves mayFail es' m' := by
  induction es generalizing m with
  | nil => simp
  | cons e rest ih =>
    simp only [List.cons_append, serves_cons, ih]
    constructor
    · rintro ⟨m₁, hreply, m₂, hrest, hes'⟩
      exact ⟨m₂, ⟨m₁, hreply, hrest⟩, hes'⟩
    · rintro ⟨m₂, ⟨m₁, hreply, hrest⟩, hes'⟩
      exact ⟨m₁, hreply, m₂, hrest, hes'⟩

/-- **The induction over a dialogue**: what requests of a kind preserve when they are carried out, a
dialogue preserves that makes no others. -/
theorem Serves.invariant {I : Memory → Prop} {P : Ask → Prop}
    (hstep : ∀ m c, I m → P (.store c.request) → I (m.after c)) (h : m.Serves mayFail es m')
    (hes : ∀ e ∈ es, P e.question) (hm : I m) : I m' := by
  induction es generalizing m with
  | nil => exact h ▸ hm
  | cons e rest ih =>
    obtain ⟨m₁, hreply, hrest⟩ := h
    obtain ⟨he, hes⟩ := List.forall_mem_cons.1 hes
    refine ih hrest hes ?_
    obtain ⟨q, reply⟩ := e
    cases q with
    | store rq =>
      rcases hreply with ⟨clock, fresh, hperform⟩ | ⟨-, -, rfl⟩
      · have hafter := hstep m ⟨clock, fresh, rq⟩ hm he
        rwa [after, hperform] at hafter
      · exact hm
    | _ => exact hreply ▸ hm

/-- A store whose table of tasks is not poisoned carries out every request, unless it is asked for a
lease that ends beyond the calendar. -/
theorem perform_isOk (hm : m.poisoned = false) (clock : Instant) (fresh : Uuid) {rq : Request}
    (hends : (Ask.store rq).LeaseEnds) : ∃ v, (m.perform clock fresh rq).1 = .ok v := by
  cases rq with
  | acquireLease id worker seconds now =>
    obtain ⟨until_, hend⟩ := Option.isSome_iff_exists.1 hends
    simp only [perform, withTasks, acquireLease, hm, hend, Bool.false_eq_true, if_false]
    split
    · exact ⟨_, rfl⟩
    · split <;> exact ⟨_, rfl⟩
  | _ => simp [perform, withTasks, hm, answered]

/-- A dialogue does not poison a store in which every lease that is asked for ends within the
calendar. -/
theorem Serves.poisoned (h : m.Serves mayFail es m') (hm : m.poisoned = false)
    (hends : ∀ e ∈ es, e.question.LeaseEnds) : m'.poisoned = false := by
  refine h.invariant (I := fun m ↦ m.poisoned = false) (P := Ask.LeaseEnds) (fun m c hm hc ↦ ?_)
    hends hm
  refine poisoned_after hm fun id worker seconds now hrequest ↦ ?_
  rw [hrequest] at hc
  exact hc

/-- A request that does not crash does not poison a store. -/
theorem poisoned_perform_of_ne_crash (hm : m.poisoned = false) {clock : Instant} {fresh : Uuid}
    {rq : Request} (h : (m.perform clock fresh rq).1 ≠ .error .crash) :
    (m.perform clock fresh rq).2.poisoned = false := by
  cases rq with
  | acquireLease id worker seconds now =>
    revert h
    simp only [perform, withTasks, acquireLease, hm, Bool.false_eq_true, if_false]
    repeat' split
    · exact fun _ ↦ hm
    · exact fun _ ↦ hm
    · exact fun hcrash ↦ absurd rfl hcrash
    · exact fun _ ↦ rfl
  | _ => exact poisoned_after (c := ⟨clock, fresh, _⟩) hm (by rintro _ _ _ _ ⟨⟩)

/-- What is true of every answer of a store in memory and of every failure is true of the answers in
a dialogue that it serves. -/
theorem Serves.answers {R : (q : Ask) → q.Reply → Prop} (h : m.Serves mayFail es m')
    (hperform : ∀ (m : Memory) clock fresh rq, ⟨.store rq, (m.perform clock fresh rq).1⟩ ∈ es →
      R (.store rq) (m.perform clock fresh rq).1)
    (hfail : ∀ rq e, R (.store rq) (.error (.error e)))
    (hother : ∀ q reply, (∀ rq, q ≠ .store rq) → R q reply) : Answers R es := by
  induction es generalizing m with
  | nil => exact answers_nil
  | cons e rest ih =>
    obtain ⟨m₁, hreply, hrest⟩ := h
    refine answers_cons.2 ⟨?_, ih hrest fun m clock fresh rq hmem ↦
      hperform m clock fresh rq (List.mem_cons_of_mem _ hmem)⟩
    obtain ⟨q, reply⟩ := e
    cases q with
    | store rq =>
      rcases hreply with ⟨clock, fresh, hreply⟩ | ⟨-, ⟨e, rfl⟩, -⟩
      · obtain rfl := congrArg Prod.fst hreply
        exact hperform m clock fresh rq (List.mem_cons_self ..)
      · exact hfail rq e
    | _ => exact hother _ reply (by rintro _ ⟨⟩)

/-- Nothing but a lease crashes in a store in memory. -/
theorem Serves.steady (h : m.Serves mayFail es m') : Answers Ask.Steady es := by
  refine h.answers (fun m clock fresh rq _ hcrash ↦ ?_) (by rintro _ _ ⟨⟩) fun q reply hq ↦ ?_
  · exact Classical.byContradiction fun hlease ↦ perform_ne_crash m clock fresh hlease hcrash
  · cases q with
    | store rq => exact absurd rfl (hq rq)
    | _ => trivial

/-- Nothing crashes in a store in memory, if every lease that is asked for ends within the calendar.
-/
theorem Serves.calm (h : m.Serves mayFail es m') (hends : ∀ e ∈ es, e.question.LeaseEnds) :
    Answers Ask.Calm es := by
  refine h.answers (fun m clock fresh rq hmem hcrash ↦ ?_) (by rintro _ _ ⟨⟩) fun q reply hq ↦ ?_
  · cases hm : m.poisoned with
    | false =>
      obtain ⟨v, hok⟩ := perform_isOk hm clock fresh (hends _ hmem)
      rw [hok] at hcrash
      cases hcrash
    | true =>
      refine perform_ne_crash m clock fresh (fun hlease ↦ ?_) hcrash
      cases rq with
      | acquireLease => simp [perform, withTasks, hm] at hcrash
      | _ => cases hlease
  · cases q with
    | store rq => exact absurd rfl (hq rq)
    | _ => trivial

/-- A dialogue in which no request crashes does not poison a store. -/
theorem Serves.poisoned_of_calm (h : m.Serves mayFail es m') (hm : m.poisoned = false)
    (hes : Answers Ask.Calm es) : m'.poisoned = false := by
  induction es generalizing m with
  | nil => exact h ▸ hm
  | cons e rest ih =>
    obtain ⟨m₁, hreply, hrest⟩ := h
    obtain ⟨he, hes⟩ := answers_cons.1 hes
    refine ih hrest ?_ hes
    obtain ⟨q, reply⟩ := e
    cases q with
    | store rq =>
      rcases hreply with ⟨clock, fresh, hperform⟩ | ⟨-, -, rfl⟩
      · have hcalm : (m.perform clock fresh rq).1 ≠ .error .crash := hperform ▸ he
        have hleft := poisoned_perform_of_ne_crash hm hcalm
        rwa [hperform] at hleft
      · exact hm
    | _ => exact hreply ▸ hm

/-- A request does not fail that the store carries out whatever is at hand. -/
theorem not_serves_error {rq : Request} {halt : Halt StoreError}
    (hrq : ∀ clock fresh, ∃ v, (m.perform clock fresh rq).1 = .ok v) :
    ¬ m.Serves (fun _ ↦ False) (⟨.store rq, .error halt⟩ :: es) m' := by
  rintro ⟨_, ⟨clock, fresh, hperform⟩ | ⟨hfalse, -⟩, -⟩
  · obtain ⟨v, hv⟩ := hrq clock fresh
    rw [hperform] at hv
    cases hv
  · exact hfalse.elim

/-- Nothing but a poisoned table keeps a store from listing its tasks. -/
theorem Serves.unlisted {now : Instant} {limit : Nat} {halt : Halt StoreError}
    (h : m.Serves (fun _ ↦ False) (⟨.store (.listRunnable now limit), .error halt⟩ :: es) m') :
    m.poisoned = true ∧ halt = .error .lockPoisoned ∧ m.Serves (fun _ ↦ False) es m' := by
  obtain ⟨_, ⟨clock, fresh, hperform⟩ | ⟨hfalse, -⟩, hrest⟩ := h
  · simp only [perform, withTasks] at hperform
    split at hperform
    · next hpoisoned =>
      cases hperform
      exact ⟨hpoisoned, rfl, hrest⟩
    · cases hperform
  · exact hfalse.elim

/-- **Nothing fails over a store that is not poisoned**, if nothing may fail. -/
theorem Serves.succeeds (h : m.Serves (fun _ ↦ False) es m') (hm : m.poisoned = false)
    (hends : ∀ e ∈ es, e.question.LeaseEnds) : Answers Ask.Succeeds es := by
  induction es generalizing m with
  | nil => exact answers_nil
  | cons e rest ih =>
    obtain ⟨m₁, hreply, hrest⟩ := h
    obtain ⟨he, hrestEnds⟩ := List.forall_mem_cons.1 hends
    have hone : m.Serves (fun _ ↦ False) [e] m₁ := ⟨m₁, hreply, rfl⟩
    refine answers_cons.2 ⟨?_, ih hrest (hone.poisoned hm (by simpa using he)) hrestEnds⟩
    obtain ⟨q, reply⟩ := e
    cases q with
    | store rq =>
      rcases hreply with ⟨clock, fresh, hperform⟩ | ⟨hmay, -⟩
      · obtain ⟨v, hv⟩ := perform_isOk hm clock fresh he
        rw [hperform] at hv
        exact ⟨v, hv⟩
      · exact hmay.elim
    | _ => trivial

end Store.Memory

/-- A store for which only refusals are planned refuses a request, or passes it on. -/
theorem Store.Rehearsal.perform_eq {r : Rehearsal} (hcontended : r.contended = [])
    (hraces : r.races = 0) (clock : Instant) (fresh : Uuid) (rq : Request) :
    r.perform clock fresh rq =
      if r.refuses rq then (.error (.error .lockPoisoned), r)
      else
        ((r.memory.perform clock fresh rq).1,
          { r with memory := (r.memory.perform clock fresh rq).2 }) := by
  cases rq <;> simp [perform, pass, race, hcontended, hraces]

/-- For the store of a site nothing is planned but refusals, and of these requests only. -/
structure Site.RefusesOnly (mayFail : Request → Prop) (s : Site) : Prop where
  refuses : ∀ rq, s.store.refuses rq = true → mayFail rq
  contended : s.store.contended = []
  races : s.store.races = 0

variable {mayFail : Request → Prop}

/-- A site for which nothing is planned. -/
theorem Site.RefusesOnly.of_nothing {s : Site} (hrefused : s.store.refused = [])
    (hcontended : s.store.contended = []) (hraces : s.store.races = 0) :
    s.RefusesOnly mayFail := by
  refine ⟨fun rq hrq ↦ ?_, hcontended, hraces⟩
  simp only [Rehearsal.refuses, hrefused, List.contains_nil, Bool.false_or] at hrq
  split at hrq <;> cases hrq

/-- **One answer** of such a site is that of its store, and nothing else is planned afterwards. -/
theorem Site.RefusesOnly.answer {s : Site} (h : s.RefusesOnly mayFail) (q : Ask) :
    s.store.memory.Replies mayFail q (s.answer q).1 (s.answer q).2.store.memory ∧
      (s.answer q).2.RefusesOnly mayFail := by
  cases q with
  | store rq =>
    have hperform := s.store.perform_eq h.contended h.races s.clock s.ids.next rq
    cases hrefuses : s.store.refuses rq with
    | true =>
      rw [hrefuses, if_pos rfl] at hperform
      simp only [Site.answer, hperform]
      exact ⟨.inr ⟨h.refuses rq hrefuses, ⟨_, rfl⟩, rfl⟩, h.refuses, h.contended, h.races⟩
    | false =>
      rw [hrefuses, if_neg Bool.false_ne_true] at hperform
      simp only [Site.answer, hperform]
      exact ⟨.inl ⟨_, _, rfl⟩, h.refuses, h.contended, h.races⟩
  | enqueue signal =>
    simp only [Site.answer]
    split
    · exact ⟨rfl, h.refuses, h.contended, h.races⟩
    · exact ⟨rfl, h⟩
  | _ => exact ⟨rfl, h.refuses, h.contended, h.races⟩

/-- **A site serves its own runs**; the requests that may fail are those whose refusal is planned.
-/
theorem Site.RefusesOnly.serves_transcript {ε α : Type} {s : Site} (h : s.RefusesOnly mayFail)
    (w : Work ε α) :
    s.store.memory.Serves mayFail (w.transcript Site.answer s) (s.run w).2.store.memory := by
  induction w generalizing s with
  | done a => rfl
  | halt halt => rfl
  | ask q next ih => exact ⟨_, (h.answer q).1, ih _ (h.answer q).2⟩

/-- Work at such a site leaves such a site behind. -/
theorem Site.RefusesOnly.run {ε α : Type} {s : Site} (h : s.RefusesOnly mayFail) (w : Work ε α) :
    (s.run w).2.RefusesOnly mayFail := by
  induction w generalizing s with
  | done a => exact h
  | halt halt => exact h
  | ask q next ih => exact ih _ (h.answer q).2

/-- Work does not take the receiving end of the bus from whoever holds it. -/
theorem Site.receiving_run {ε α : Type} (s : Site) (w : Work ε α) :
    (s.run w).2.receiving = s.receiving := by
  induction w generalizing s with
  | done a => rfl
  | halt halt => rfl
  | ask q next ih =>
    refine (ih _ _).trans ?_
    cases q with
    | enqueue signal => cases hr : s.receiving <;> simp [Site.answer, hr]
    | _ => rfl

/-- The bus of a site delivers while somebody holds its receiving end. -/
theorem Site.delivers_transcript {ε α : Type} {s : Site} (h : s.receiving = true) (w : Work ε α) :
    Answers Ask.Delivers (w.transcript Site.answer s) := by
  induction w generalizing s with
  | done a => exact answers_nil
  | halt halt => exact answers_nil
  | ask q next ih =>
    refine answers_cons.2 ⟨?_, ih _ ?_⟩
    · cases q <;> simp [Ask.Delivers, Site.answer, h]
    · cases q <;> simp [Site.answer, h]

end Foreman
