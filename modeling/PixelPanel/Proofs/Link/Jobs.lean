import PixelPanel.Proofs.Link.Asides

/-!
# Chunks that workers take

A chunk that a worker takes from the queue is a job, together with the listeners of that moment. It is
passed to these listeners one after the other. A job is under way until it has been passed to all of
them; meanwhile one worker has it, who waits at the gate or for its turn.
-/

namespace PixelPanel.Link

/-- The name and the chunk in the note of a listener. -/
def Note.heard? : Note → Option (String × Octets)
  | .heard listener chunk => some (listener, chunk)
  | _ => none

/-- A chunk that was taken from the queue, and the listeners of that moment. -/
structure Job where
  chunk : Octets
  listeners : List Listener
  deriving DecidableEq, Repr

/-- A chunk has been passed to a listener. Jobs are numbered in the order in which they were taken. -/
structure Pass where
  job : ℕ
  chunk : Octets
  listener : Listener
  deriving DecidableEq, Repr

/-- What an observer notes. -/
def Pass.heard? (pass : Pass) : Option (String × Octets) :=
  pass.listener.name?.map fun name => (name, pass.chunk)

/-- The inbox after a pass. -/
def Pass.reach (inbox : Inbox) (pass : Pass) : Inbox :=
  match pass.listener with
  | .inbox => (inbox.receive pass.chunk).1
  | .observer .. => inbox

/-- The listeners that a job has been passed to, in order. -/
def served (passes : List Pass) (job : ℕ) : List Listener :=
  (passes.filter fun pass => pass.job == job).map Pass.listener

/-- Whether a listener waits for the gate. -/
def Listener.isGated : Listener → Bool
  | .observer _ _ .gated _ => true
  | _ => false

/-- What the worker with a turn is busy with. -/
def Wake.going? : Wake → Option Delivery
  | .delivery going | .returned _ going => some going
  | _ => none

/-- The turns to come that are those of workers. -/
def workerTurns (link : Link) : List Wake :=
  link.wakes.filter fun wake => (Proofs.workerOf? wake).isSome

/-- What workers are busy with: they wait at the gate or for their turn. -/
def inProgress (link : Link) : List Delivery :=
  link.blocked ++ link.workerTurns.filterMap Wake.going?

end PixelPanel.Link

namespace PixelPanel.Proofs
open Link

/-- The jobs of a session and their passes. The jobs that are under way, given by their numbers and
by what is left to do, are passed to some of their listeners, all others to all of them, in the order of
the listeners. -/
structure Rota (session : ℕ) (jobs : List Job) (passes : List Pass)
    (underway : List (ℕ × Delivery)) : Prop where
  origin : ∀ pass ∈ passes, (jobs[pass.job]?).map Job.chunk = some pass.chunk
  once : (underway.map Prod.fst).Nodup
  rest : ∀ one ∈ underway, ∃ job, jobs[one.1]? = some job ∧ one.2.session = session ∧
    one.2.chunk = job.chunk ∧ job.listeners = served passes one.1 ++ one.2.listeners
  done : ∀ id job, jobs[id]? = some job → id ∉ underway.map Prod.fst →
    served passes id = job.listeners

/-- Workers are busy with these deliveries, which belong to jobs that are under way. -/
def Carries (session : ℕ) (jobs : List Job) (passes : List Pass) (deliveries : List Delivery) : Prop :=
  ∃ underway, Rota session jobs passes underway ∧ (underway.map Prod.snd).Perm deliveries

variable {session id : ℕ} {jobs : List Job} {passes : List Pass} {deliveries : List Delivery}
  {underway : List (ℕ × Delivery)} {going : Delivery} {link link' : Link}

/-! ### What becomes of jobs -/

lemma served_append (passes more : List Pass) (id : ℕ) :
    served (passes ++ more) id = served passes id ++ served more id := by
  rw [served, List.filter_append, List.map_append]
  rfl

lemma served_map_self (id : ℕ) (chunk : Octets) (given : List Listener) :
    served (given.map (Pass.mk id chunk)) id = given := by
  rw [served, List.filter_eq_self.mpr, List.map_map]
  · exact List.map_id given
  · intro pass hmem
    obtain ⟨listener, -, rfl⟩ := List.mem_map.mp hmem
    exact beq_self_eq_true id

lemma served_map_of_ne {other : ℕ} (h : id ≠ other) (chunk : Octets) (given : List Listener) :
    served (given.map (Pass.mk id chunk)) other = [] := by
  rw [served, List.filter_eq_nil_iff.mpr, List.map_nil]
  intro pass hmem
  obtain ⟨listener, -, rfl⟩ := List.mem_map.mp hmem
  simpa using h

lemma Rota.lt (h : Rota session jobs passes underway) {pass : Pass} (hmem : pass ∈ passes) :
    pass.job < jobs.length := by
  obtain ⟨job, hjob, -⟩ := Option.map_eq_some_iff.mp (h.origin pass hmem)
  exact (List.getElem?_eq_some_iff.mp hjob).1

lemma Rota.served_eq_nil (h : Rota session jobs passes underway) (hle : jobs.length ≤ id) :
    served passes id = [] := by
  rw [served, List.filter_eq_nil_iff.mpr, List.map_nil]
  intro pass hmem
  have hlt := h.lt hmem
  rw [beq_iff_eq]
  omega

/-- Every job is passed to its listeners in order, as far as it goes. -/
lemma Rota.prefixes (h : Rota session jobs passes underway) {job : Job} (hjob : jobs[id]? = some job) :
    served passes id <+: job.listeners := by
  by_cases hmem : id ∈ underway.map Prod.fst
  · obtain ⟨one, hone, rfl⟩ := List.mem_map.mp hmem
    obtain ⟨found, hfound, -, -, hserved⟩ := h.rest one hone
    obtain rfl := Option.some.inj (hfound.symm.trans hjob)
    exact ⟨_, hserved.symm⟩
  · exact h.done id job hjob hmem ▸ List.prefix_rfl

lemma Carries.perm {others : List Delivery} (h : Carries session jobs passes deliveries)
    (hperm : deliveries.Perm others) : Carries session jobs passes others := by
  obtain ⟨underway, hrota, hall⟩ := h
  exact ⟨underway, hrota, hall.trans hperm⟩

lemma Rota.congr {others : List (ℕ × Delivery)} (h : Rota session jobs passes underway)
    (hperm : underway.Perm others) : Rota session jobs passes others where
  origin := h.origin
  once := (hperm.map Prod.fst).nodup_iff.mp h.once
  rest one hmem := h.rest one (hperm.mem_iff.mpr hmem)
  done id job hjob hnot := h.done id job hjob fun hmem => hnot ((hperm.map Prod.fst).mem_iff.mp hmem)

/-- The job of a worker stands first. -/
lemma Carries.exists_first (h : Carries session jobs passes (going :: deliveries)) :
    ∃ id others, Rota session jobs passes ((id, going) :: others) ∧
      (others.map Prod.snd).Perm deliveries := by
  obtain ⟨underway, hrota, hall⟩ := h
  obtain ⟨⟨id, _⟩, hmem, rfl⟩ := List.mem_map.mp (hall.mem_iff.mpr List.mem_cons_self)
  have hfirst := List.perm_cons_erase hmem
  refine ⟨id, _, hrota.congr hfirst, ?_⟩
  exact ((hfirst.map Prod.snd).symm.trans hall).cons_inv

/-- A chunk is taken: a new job is under way. -/
lemma Carries.take (h : Carries session jobs passes deliveries) (chunk : Octets)
    (listeners : List Listener) :
    Carries session (jobs ++ [⟨chunk, listeners⟩]) passes
      (⟨session, chunk, listeners⟩ :: deliveries) := by
  obtain ⟨underway, hrota, hall⟩ := h
  have hkept : ∀ {id : ℕ} {job : Job}, jobs[id]? = some job →
      (jobs ++ [⟨chunk, listeners⟩])[id]? = some job := by
    intro id job hjob
    rw [List.getElem?_append_left (List.getElem?_eq_some_iff.mp hjob).1, hjob]
  have hnew : (jobs ++ [⟨chunk, listeners⟩])[jobs.length]? = some ⟨chunk, listeners⟩ :=
    List.getElem?_concat_length
  refine ⟨(jobs.length, ⟨session, chunk, listeners⟩) :: underway, ⟨?_, ?_, ?_, ?_⟩, hall.cons _⟩
  · intro pass hmem
    obtain ⟨job, hjob, hchunk⟩ := Option.map_eq_some_iff.mp (hrota.origin pass hmem)
    rw [hkept hjob, Option.map_some, hchunk]
  · rw [List.map_cons, List.nodup_cons]
    refine ⟨fun hmem => ?_, hrota.once⟩
    obtain ⟨one, hone, heq⟩ := List.mem_map.mp hmem
    obtain ⟨job, hjob, -⟩ := hrota.rest one hone
    have hlt := (List.getElem?_eq_some_iff.mp hjob).1
    omega
  · refine List.forall_mem_cons.mpr ⟨⟨_, hnew, rfl, rfl, ?_⟩, fun one hmem => ?_⟩
    · rw [hrota.served_eq_nil (Nat.le_refl _), List.nil_append]
    · obtain ⟨job, hjob, hrest⟩ := hrota.rest one hmem
      exact ⟨job, hkept hjob, hrest⟩
  · -- the new job is not done, so a job that is done is an old one
    intro id job hjob hnot
    rw [List.map_cons, List.mem_cons, not_or] at hnot
    refine hrota.done id job ?_ hnot.2
    have hlt := (List.getElem?_eq_some_iff.mp hjob).1
    rw [List.length_append, List.length_singleton] at hlt
    rwa [List.getElem?_append_left (by omega)] at hjob

/-- The chunk of a job is passed to the next of its listeners. -/
lemma Carries.pass (h : Carries session jobs passes (going :: deliveries)) :
    ∃ id, ∀ given rest, going.listeners = given ++ rest →
      Carries session jobs (passes ++ given.map (Pass.mk id going.chunk))
        ({ going with listeners := rest } :: deliveries) := by
  obtain ⟨id, others, hrota, hall⟩ := h.exists_first
  refine ⟨id, fun given rest hgiven => ⟨(id, { going with listeners := rest }) :: others,
    ⟨?_, ?_, ?_, ?_⟩, hall.cons _⟩⟩
  · refine List.forall_mem_append.mpr ⟨hrota.origin, fun pass hmem => ?_⟩
    obtain ⟨listener, -, rfl⟩ := List.mem_map.mp hmem
    obtain ⟨job, hjob, -, hchunk, -⟩ := hrota.rest _ List.mem_cons_self
    rw [hjob, Option.map_some, hchunk]
  · exact hrota.once
  · have honce := (List.nodup_cons.mp hrota.once).1
    refine List.forall_mem_cons.mpr ⟨?_, fun one hmem => ?_⟩
    · obtain ⟨job, hjob, hsession, hchunk, hserved⟩ := hrota.rest _ List.mem_cons_self
      refine ⟨job, hjob, hsession, hchunk, ?_⟩
      rw [hserved, served_append, served_map_self, hgiven, List.append_assoc]
    · obtain ⟨job, hjob, hsession, hchunk, hserved⟩ := hrota.rest one (List.mem_cons_of_mem _ hmem)
      have hne : id ≠ one.1 := fun heq =>
        honce (List.mem_map.mpr ⟨one, hmem, heq.symm⟩)
      refine ⟨job, hjob, hsession, hchunk, ?_⟩
      rw [hserved, served_append, served_map_of_ne hne, List.append_nil]
  · intro other job hjob hnot
    have hne : id ≠ other := by
      rintro rfl
      exact hnot List.mem_cons_self
    rw [served_append, served_map_of_ne hne, List.append_nil]
    exact hrota.done other job hjob hnot

/-- A job that has been passed to all of its listeners is over. -/
lemma Carries.finish (h : Carries session jobs passes (going :: deliveries))
    (hnone : going.listeners = []) : Carries session jobs passes deliveries := by
  obtain ⟨id, others, hrota, hall⟩ := h.exists_first
  refine ⟨others, ⟨hrota.origin, (List.nodup_cons.mp hrota.once).2,
    fun one hmem => hrota.rest one (List.mem_cons_of_mem _ hmem), fun other job hjob hnot => ?_⟩, hall⟩
  by_cases heq : other = id
  · -- nothing is left of the listeners, so those that were served are all
    subst heq
    obtain ⟨found, hfound, -, -, hserved⟩ := hrota.rest _ List.mem_cons_self
    obtain rfl := Option.some.inj (hfound.symm.trans hjob)
    rw [hserved, hnone, List.append_nil]
  · refine hrota.done other job hjob fun hmem => ?_
    rw [List.map_cons, List.mem_cons] at hmem
    exact hmem.elim heq hnot

end PixelPanel.Proofs
