import Mathlib.Logic.Function.Basic
import PixelPanel.Proofs.Link.Turns

/-!
# Where a link stands

The standing of a link is what matters for its sessions: the phase, which session is in use, which
calls wait, and for each session whether its socket is open, whether its reader runs and how many
workers serve it. Here stands what every operation of a link does to it; most do nothing.
-/

namespace PixelPanel.Link

/-- Whether the reader of a session runs. -/
def isReading (link : Link) (session : ℕ) : Bool :=
  ((link.sessions[session]?).map Session.reading).getD false

/-- The number of workers of a session that wait for a chunk. -/
def idle (link : Link) (session : ℕ) : ℕ :=
  ((link.sessions[session]?).map Session.idle).getD 0

/-- The number of workers of a session: those that wait for a chunk, for the gate or for their turn. -/
def crew (link : Link) (session : ℕ) : ℕ :=
  link.idle session + link.blocked.countP (fun going => going.session == session) +
    link.wakes.countP (Wake.isWorkerOf session)

/-- Whether a wake belongs to a scope that ends. -/
def Wake.isLeaving : Wake → Bool
  | .leaving .. => true
  | _ => false

end PixelPanel.Link

namespace PixelPanel.Proofs
open Link

/-- What matters of a link for its sessions. A call that waits is given by its number and, if it is
an attempt to connect, its socket. -/
@[ext]
structure Standing where
  phase : Phase
  current : Option ℕ
  owned : Option ℕ
  calls : List (ℕ × Option ℕ)
  isOpen : ℕ → Bool
  isReading : ℕ → Bool
  crew : ℕ → ℕ
  isLeaving : Bool
  workers : ℕ

/-- The sockets of the attempts that wait. -/
def Standing.attempts (standing : Standing) : List ℕ :=
  standing.calls.filterMap Prod.snd

/-- Where a link stands. -/
def standing (link : Link) : Standing where
  phase := link.phase
  current := link.current
  owned := link.owned
  calls := link.calls.map fun call => (call.id, call.socket?)
  isOpen := link.isOpen
  isReading := link.isReading
  crew := link.crew
  isLeaving := link.wakes.any Wake.isLeaving
  workers := link.workers

variable {link : Link}

/-! ### One session at a time -/

section Flags

variable {sessions : List Session} {change : Session → Session} {session : ℕ}

/-- A flag of the sessions after one of them has changed. -/
lemma getD_map_modify {α : Type} (flag : Session → α) (default value : α)
    (hchange : ∀ found, sessions[session]? = some found → flag (change found) = value)
    (hlt : session < sessions.length) :
    (fun other => (((sessions.modify session change)[other]?).map flag).getD default) =
      Function.update (fun other => ((sessions[other]?).map flag).getD default) session value := by
  funext other
  by_cases h : other = session
  · subst h
    have hfound := List.getElem?_eq_getElem hlt
    simp [hfound, hchange _ hfound]
  · simp [Ne.symm h, Function.update_of_ne h]

lemma getD_map_modify_of_eq {α : Type} (flag : Session → α) (default : α)
    (hchange : ∀ found, flag (change found) = flag found) :
    (fun other => (((sessions.modify session change)[other]?).map flag).getD default) =
      fun other : ℕ => ((sessions[other]?).map flag).getD default := by
  funext other
  by_cases h : session = other
  · simp [h, Function.comp_def, hchange]
  · simp [h]

/-- A flag of the sessions when there is a new one. -/
lemma getD_map_concat {α : Type} (flag : Session → α) (default : α) (found : Session) :
    (fun other => (((sessions ++ [found])[other]?).map flag).getD default) =
      Function.update (fun other => ((sessions[other]?).map flag).getD default) sessions.length
        (flag found) := by
  funext other
  rcases Nat.lt_trichotomy other sessions.length with hlt | rfl | hgt
  · rw [Function.update_of_ne hlt.ne, List.getElem?_append_left hlt]
  · rw [Function.update_self, List.getElem?_concat_length, Option.map_some, Option.getD_some]
  · have hle : (sessions ++ [found]).length ≤ other := by
      rw [List.length_append, List.length_singleton]
      exact hgt
    rw [Function.update_of_ne hgt.ne', List.getElem?_eq_none hle, List.getElem?_eq_none hgt.le]

end Flags

/-- Only the idle workers of a crew are known to its session. -/
lemma crew_modifySession (session : ℕ) {change : Session → Session}
    (hchange : ∀ found, (change found).idle = found.idle) :
    (link.modifySession session change).crew = link.crew := by
  funext other
  have hidle := congrFun (@getD_map_modify_of_eq link.sessions change session _ Session.idle 0
    hchange) other
  exact congrArg (· + _ + _) hidle

lemma lt_of_isOpen {session : ℕ} (h : link.isOpen session) : session < link.sessions.length := by
  by_contra hle
  rw [isOpen, List.getElem?_eq_none (Nat.le_of_not_lt hle)] at h
  cases h

/-! ### Operations that leave the standing alone -/

@[simp] lemma standing_log (level : Level) (message : String) :
    standing (link.log level message) = standing link := rfl

@[simp] lemma standing_finish (call : ℕ) (outcome : Outcome) :
    standing (link.finish call outcome) = standing link := rfl

@[simp] lemma standing_tryWrite (socket : ℕ) (message : Octets) :
    standing (link.tryWrite socket message).1 = standing link := by
  unfold tryWrite
  split
  · rfl
  · split <;> rfl

@[simp] lemma standing_wake_call (calls : List ℕ) :
    standing (link.wake (calls.map Wake.call)) = standing link := by
  have hworker : ∀ session, (calls.map Wake.call).countP (Wake.isWorkerOf session) = 0 := by
    intro session
    rw [List.countP_eq_zero]
    simp [Wake.isWorkerOf]
  have hleaving : (calls.map Wake.call).any Wake.isLeaving = false := by
    simp [Wake.isLeaving]
  refine Standing.ext rfl rfl rfl rfl rfl rfl ?_ ?_ rfl
  · funext session
    simp only [standing, crew, wake, List.countP_append, hworker]
    rfl
  · simp only [standing, wake, List.any_append, hleaving, Bool.or_false]

@[simp] lemma standing_handOver (lock : ℕ) : standing (link.handOver lock) = standing link := by
  unfold handOver
  split
  · rfl
  · exact standing_wake_call [_]

/-! ### Operations that change it -/

lemma standing_retire (reason : String) :
    standing (link.retire reason) = { standing link with phase := .closed } := by
  unfold retire
  split <;> rfl

lemma standing_suspend (call : Call) :
    standing (link.suspend call) =
      { standing link with calls := (standing link).calls ++ [(call.id, call.socket?)] } := by
  simp only [standing, suspend, List.map_append, List.map_singleton]
  rfl

lemma standing_removeCall (id : ℕ) :
    standing (link.removeCall id) =
      { standing link with calls := (standing link).calls.filter fun call => call.1 != id } := by
  simp only [standing, removeCall, List.filter_map]
  rfl

lemma closeSocket_of_none (h : link.current = none) :
    link.closeSocket = { link with phase := .disconnected } := by
  unfold closeSocket
  split
  · rfl
  · rename_i hsome
    rw [h] at hsome
    cases hsome

lemma closeSocket_of_some {session : ℕ} (h : link.current = some session) :
    link.closeSocket = { ((link.log .debug s!"Closing socket to {link.address}").modifySession
      session fun found => { found with isOpen := false }).note (.closed session) with
      current := none, phase := .disconnected } := by
  unfold closeSocket
  split
  · rename_i hnone
    rw [h] at hnone
    cases hnone
  · rename_i hsome
    obtain rfl := Option.some.inj (h.symm.trans hsome)
    rfl

lemma stopTasks_of_none (h : link.owned = none) : link.stopTasks = link := by
  unfold stopTasks
  split
  · rfl
  · rename_i hsome
    rw [h] at hsome
    cases hsome

lemma stopTasks_of_some {session : ℕ} (h : link.owned = some session) :
    link.stopTasks = { link.modifySession session fun found =>
        { found with reading := false, idle := 0 } with
      owned := none
      blocked := link.blocked.filter fun going => going.session != session
      wakes := link.wakes.filter fun wake => !wake.isWorkerOf session } := by
  unfold stopTasks
  split
  · rename_i hnone
    rw [h] at hnone
    cases hnone
  · rename_i hsome
    obtain rfl := Option.some.inj (h.symm.trans hsome)
    rfl

lemma standing_closeSocket_of_none (h : link.current = none) :
    standing link.closeSocket = { standing link with phase := .disconnected } := by
  rw [closeSocket_of_none h]
  rfl

lemma standing_closeSocket {session : ℕ} (h : link.current = some session)
    (hlt : session < link.sessions.length) :
    standing link.closeSocket = { standing link with
      phase := .disconnected
      current := none
      isOpen := Function.update link.isOpen session false } := by
  rw [closeSocket_of_some h]
  refine Standing.ext rfl rfl rfl rfl ?_ ?_ ?_ rfl rfl
  · exact getD_map_modify Session.isOpen false false (fun _ _ => rfl) hlt
  · exact getD_map_modify_of_eq Session.reading false fun _ => rfl
  · exact crew_modifySession session fun _ => rfl

lemma countP_filter_of_imp {α : Type} {p q : α → Bool} (h : ∀ a, q a → p a) (l : List α) :
    (l.filter p).countP q = l.countP q := by
  rw [List.countP_filter]
  refine List.countP_congr fun a _ => ?_
  rw [Bool.and_eq_true]
  exact ⟨And.left, fun ha => ⟨ha, h a ha⟩⟩

lemma countP_filter_of_not {α : Type} {p q : α → Bool} (h : ∀ a, q a → ¬p a) (l : List α) :
    (l.filter p).countP q = 0 := by
  rw [List.countP_eq_zero]
  exact fun a hmem ha => h a ha (List.mem_filter.mp hmem).2

lemma isWorkerOf_iff {session : ℕ} {wake : Wake} :
    wake.isWorkerOf session ↔ workerOf? wake = some session := by
  cases wake <;> simp [Wake.isWorkerOf, workerOf?]

lemma workerOf?_of_isLeaving {wake : Wake} (h : wake.isLeaving) : workerOf? wake = none := by
  cases wake <;> first | rfl | cases h

lemma crew_stopTasks {session : ℕ} (h : link.owned = some session)
    (hlt : session < link.sessions.length) :
    link.stopTasks.crew = Function.update link.crew session 0 := by
  have hidle := @getD_map_modify link.sessions
    (fun found => { found with reading := false, idle := 0 }) session _ Session.idle 0 0
    (fun _ _ => rfl) hlt
  rw [stopTasks_of_some h]
  funext other
  refine (congrArg (· + _ + _) (congrFun hidle other)).trans ?_
  dsimp only
  by_cases hother : other = session
  · subst hother
    rw [countP_filter_of_not, countP_filter_of_not, Function.update_self, Function.update_self]
    · simp
    · simp
  · rw [countP_filter_of_imp, countP_filter_of_imp, Function.update_of_ne hother,
      Function.update_of_ne hother]
    · rfl
    · intro wake hwake
      rw [isWorkerOf_iff] at hwake
      simp [Bool.eq_false_iff, isWorkerOf_iff, hwake, hother]
    · simp_all

lemma standing_stopTasks {session : ℕ} (h : link.owned = some session)
    (hlt : session < link.sessions.length) :
    standing link.stopTasks = { standing link with
      owned := none
      isReading := Function.update link.isReading session false
      crew := Function.update link.crew session 0 } := by
  have hleaving : link.stopTasks.wakes.any Wake.isLeaving = link.wakes.any Wake.isLeaving := by
    rw [stopTasks_of_some h]
    refine Bool.eq_iff_iff.mpr ?_
    simp only [List.any_filter, List.any_eq_true, Bool.and_eq_true]
    constructor
    · rintro ⟨wake, hmem, -, hleaving⟩
      exact ⟨wake, hmem, hleaving⟩
    · rintro ⟨wake, hmem, hleaving⟩
      refine ⟨wake, hmem, ?_, hleaving⟩
      simp [Bool.eq_false_iff, isWorkerOf_iff, workerOf?_of_isLeaving hleaving]
  have hcrew := crew_stopTasks h hlt
  rw [stopTasks_of_some h] at hleaving hcrew ⊢
  refine Standing.ext rfl rfl rfl rfl ?_ ?_ hcrew hleaving rfl
  · exact getD_map_modify_of_eq Session.isOpen false fun _ => rfl
  · exact getD_map_modify Session.reading false false (fun _ _ => rfl) hlt

lemma standing_wake_leaving (id turns : ℕ) (outcome : Outcome) :
    standing (link.wake [.leaving id turns outcome]) =
      { standing link with isLeaving := true } := by
  refine Standing.ext rfl rfl rfl rfl rfl rfl ?_ ?_ rfl
  · funext session
    simp only [standing, crew, wake, List.countP_append, List.countP_singleton, Wake.isWorkerOf]
    rfl
  · simp [standing, wake, Wake.isLeaving]

/-! ### Turns of workers -/

/-- A worker that has gone as far as it could is still one of the workers of its session. -/
lemma crew_of_works {session : ℕ} {link link' : Link} (h : Works session link link')
    (hlt : session < link.sessions.length) :
    link'.crew = Function.update link.crew session (link.crew session + 1) := by
  obtain ⟨inbox, notes, idle, wakes, blocked, change, -, hparked, hchange, rfl⟩ := h
  have hidle := @getD_map_modify link.sessions change session _
    Session.idle 0 (link.idle session + idle) (fun found hfound => by
      rw [hchange.idle, Link.idle, hfound]
      rfl) hlt
  funext other
  refine (congrArg (· + _ + _) (congrFun hidle other)).trans ?_
  dsimp only
  rw [List.countP_append, List.countP_append]
  by_cases hother : other = session
  · subst hother
    rw [Function.update_self, Function.update_self, crew]
    cases hparked with
    | idle => simp; omega
    | thread listener going h => simp [Wake.isWorkerOf, h]; omega
    | gate going h => simp [h]; omega
  · rw [Function.update_of_ne hother, Function.update_of_ne hother, crew]
    cases hparked with
    | idle => rfl
    | thread listener going h => simp [Wake.isWorkerOf, h, Ne.symm hother]; rfl
    | gate going h => simp [h, Ne.symm hother]; rfl

lemma standing_of_works {session : ℕ} {link link' : Link} (h : Works session link link')
    (hlt : session < link.sessions.length) :
    standing link' = { standing link with
      crew := Function.update link.crew session (link.crew session + 1) } := by
  have hcrew := crew_of_works h hlt
  obtain ⟨inbox, notes, idle, wakes, blocked, change, -, hparked, hchange, rfl⟩ := h
  refine Standing.ext rfl rfl rfl rfl ?_ ?_ hcrew ?_ rfl
  · exact getD_map_modify_of_eq Session.isOpen false hchange.isOpen
  · exact getD_map_modify_of_eq Session.reading false hchange.reading
  · cases hparked <;> simp [standing, Wake.isLeaving]

/-- A worker that takes its turn leaves the standing alone. -/
lemma standing_resume_worker {wake : Wake} {rest : List Wake} {session : ℕ}
    (hwakes : link.wakes = wake :: rest) (h : workerOf? wake = some session)
    (hlt : session < link.sessions.length) :
    standing ({ link with wakes := rest }.resume wake) = standing link := by
  have hwake : wake.isLeaving = false := by
    cases wake <;> first | rfl | cases h
  refine (@standing_of_works _ { link with wakes := rest } _ (resume_works h) hlt).trans ?_
  refine Standing.ext rfl rfl rfl rfl rfl rfl ?_ ?_ rfl
  · funext other
    by_cases hother : other = session
    · subst hother
      simp only [Function.update_self, standing, crew, hwakes, List.countP_cons,
        isWorkerOf_iff.mpr h, if_true]
      rfl
    · have hnot : ¬(wake.isWorkerOf other) := by
        rw [isWorkerOf_iff, h]
        exact fun heq => hother (Option.some.inj heq).symm
      simp only [Function.update_of_ne hother, standing, crew, hwakes, List.countP_cons, if_neg hnot]
      rfl
  · simp [standing, hwakes, hwake]

/-! ### What the device and the gate do -/

lemma standing_openGate : standing ({ link with gateOpen := true, blocked := [] }.wake
    (link.blocked.map .delivery)) = standing link := by
  refine Standing.ext rfl rfl rfl rfl rfl rfl ?_ ?_ rfl
  · funext session
    have hwakes : (link.blocked.map Wake.delivery).countP (Wake.isWorkerOf session) =
        link.blocked.countP fun going => going.session == session := by
      rw [List.countP_map]
      rfl
    simp only [standing, crew, wake, List.countP_append, hwakes, List.countP_nil]
    change link.idle session + 0 + _ = _
    omega
  · simp [standing, wake, Wake.isLeaving]

lemma standing_enqueue (chunk : Octets) : standing (link.enqueue chunk) = standing link := by
  unfold enqueue
  split
  · rfl
  · split
    · rfl
    · refine Standing.ext rfl rfl rfl rfl ?_ ?_ ?_ rfl rfl
      · exact getD_map_modify_of_eq Session.isOpen false fun _ => rfl
      · exact getD_map_modify_of_eq Session.reading false fun _ => rfl
      · exact crew_modifySession _ fun _ => rfl

lemma standing_rouse (session : ℕ) : standing (link.rouse session) = standing link := by
  unfold rouse
  split
  · rfl
  · rename_i found hfound
    obtain ⟨hlt, -⟩ := List.getElem?_eq_some_iff.mp hfound
    refine Standing.ext rfl rfl rfl rfl ?_ ?_ ?_ ?_ rfl
    · exact getD_map_modify_of_eq Session.isOpen false fun _ => rfl
    · exact getD_map_modify_of_eq Session.reading false fun _ => rfl
    · -- the workers that are woken no longer wait for a chunk
      funext other
      have hidle := congrFun (@getD_map_modify link.sessions
        (fun other => { other with
          idle := other.idle - min found.idle found.queue.length }) session _ Session.idle 0
        (found.idle - min found.idle found.queue.length) (fun same hsame => by
          obtain rfl := Option.some.inj (hfound.symm.trans hsame)
          rfl) hlt) other
      refine (congrArg (· + _ + _) hidle).trans ?_
      simp only [wake, modifySession, List.countP_append, List.countP_replicate, standing, crew]
      by_cases hother : other = session
      · subst hother
        simp only [Function.update_self, Wake.isWorkerOf, beq_self_eq_true, if_true, idle, hfound,
          Option.map_some, Option.getD_some]
        omega
      · simp only [Function.update_of_ne hother, Wake.isWorkerOf, idle,
          beq_eq_false_iff_ne.mpr (Ne.symm hother), Bool.false_eq_true, if_false, Nat.add_zero]
    · simp [standing, wake, modifySession, Wake.isLeaving]

lemma standing_read (octets : Octets) : standing (link.read octets) = standing link := by
  have hfold : ∀ (pieces : List Octets) (link : Link), standing (pieces.foldl
      (fun link chunk => (link.log .debug ("Received: " ++ Hex.encode chunk)).enqueue chunk) link) =
      standing link := by
    intro pieces
    induction pieces with
    | nil => exact fun _ => rfl
    | cons piece rest ih => exact fun link => (ih _).trans (standing_enqueue piece)
  unfold Link.read
  split
  · dsimp only
    split
    · exact hfold _ _
    · rw [standing_rouse]
      exact hfold _ _
  · rfl

lemma standing_readEnd :
    standing link.readEnd = { standing link with
      isReading := fun _ => false
      phase := if link.hasReader then .closed else link.phase } := by
  have hfold : ∀ (sessions : List Session) (link : Link),
      standing (sessions.foldl (fun link session =>
        if session.reading then link.retire "closed by device" else link) link) =
      { standing link with
        phase := if sessions.any Session.reading then .closed else link.phase } := by
    intro sessions
    induction sessions with
    | nil => exact fun _ => rfl
    | cons session rest ih =>
      intro link
      rw [List.foldl_cons, ih]
      cases hreading : session.reading with
      | false => simp [hreading]
      | true =>
        have hphase : (link.retire "closed by device").phase = .closed := rfl
        simp [hreading, standing_retire, hphase]
  rw [readEnd, hfold]
  refine Standing.ext rfl rfl rfl rfl ?_ ?_ ?_ rfl rfl
  · funext other
    simp [standing, isOpen, Function.comp_def]
  · funext other
    cases h : link.sessions[other]? <;> simp [standing, isReading, h]
  · funext other
    simp [standing, crew, idle, Function.comp_def]

lemma exists_standing_readError (error : SystemError) :
    standing (link.readError error) = standing link ∨
      ∃ session, standing (link.readError error) = { standing link with
        isReading := Function.update link.isReading session false
        phase := .closed } := by
  unfold readError
  split
  · exact .inl rfl
  · rename_i session hfind
    obtain ⟨hlt, -⟩ := List.findIdx?_eq_some_iff_findIdx_eq.mp hfind
    refine .inr ⟨session, (standing_retire _).trans ?_⟩
    refine Standing.ext rfl rfl rfl rfl ?_ ?_ ?_ rfl rfl
    · exact getD_map_modify_of_eq Session.isOpen false fun _ => rfl
    · exact getD_map_modify Session.reading false false (fun _ _ => rfl) hlt
    · exact crew_modifySession session fun _ => rfl

/-! ### What an attempt to connect does -/

lemma standing_dropSocket {socket : ℕ} (hlt : socket < link.sessions.length) :
    standing (link.dropSocket socket) = { standing link with
      isOpen := Function.update link.isOpen socket false } := by
  refine Standing.ext rfl rfl rfl rfl ?_ ?_ ?_ rfl rfl
  · exact getD_map_modify Session.isOpen false false (fun _ _ => rfl) hlt
  · exact getD_map_modify_of_eq Session.reading false fun _ => rfl
  · exact crew_modifySession socket fun _ => rfl

/-- A new socket is open, and nothing else. -/
lemma standing_newSocket :
    standing { link with sessions := link.sessions ++ [{ isOpen := true }] } = { standing link with
      isOpen := Function.update link.isOpen link.sessions.length true } := by
  have hnone : link.sessions[link.sessions.length]? = none :=
    List.getElem?_eq_none (Nat.le_refl _)
  refine Standing.ext rfl rfl rfl rfl ?_ ?_ ?_ rfl rfl
  · exact getD_map_concat Session.isOpen false _
  · refine (getD_map_concat Session.reading false _).trans (Function.update_eq_self_iff.mpr ?_)
    rw [hnone]
    rfl
  · have hidle := (@getD_map_concat link.sessions _ Session.idle 0 { isOpen := true }).trans
      (Function.update_eq_self_iff.mpr (by rw [hnone]; rfl))
    funext other
    exact congrArg (· + _ + _) (congrFun hidle other)

/-- The link when a session has just begun on a socket, before the call goes on. -/
def attached (link : Link) (socket : ℕ) : Link :=
  { link.modifySession socket fun found =>
      { found with reading := true, idle := link.workers, queue := [] } with
    current := some socket, owned := some socket, dropped := 0, phase := .active }

lemma attach_eq (id socket : ℕ) (actions : List Action) (ending : Ending) :
    link.attach id socket actions ending = perform id ending none actions
      (((attached link socket).note (.attached socket)).log .info
        s!"Connected to {link.address}") := rfl

lemma standing_attached {socket : ℕ} (hlt : socket < link.sessions.length)
    (hcrew : link.crew socket = 0) :
    standing (attached link socket) = { standing link with
      phase := .active
      current := some socket
      owned := some socket
      isReading := Function.update link.isReading socket true
      crew := Function.update link.crew socket link.workers } := by
  refine Standing.ext rfl rfl rfl rfl ?_ ?_ ?_ rfl rfl
  · exact getD_map_modify_of_eq Session.isOpen false fun _ => rfl
  · exact getD_map_modify Session.reading false true (fun _ _ => rfl) hlt
  · funext other
    have hidle := congrFun (@getD_map_modify link.sessions
      (fun found => { found with reading := true, idle := link.workers, queue := [] }) socket _
      Session.idle 0 link.workers (fun _ _ => rfl) hlt) other
    refine (congrArg (· + _ + _) hidle).trans ?_
    change _ + link.blocked.countP (fun going => going.session == other) +
      link.wakes.countP (Wake.isWorkerOf other) = Function.update link.crew socket link.workers other
    by_cases hother : other = socket
    · subst hother
      rw [crew] at hcrew
      rw [Function.update_self, Function.update_self]
      omega
    · rw [Function.update_of_ne hother, Function.update_of_ne hother]
      rfl

end PixelPanel.Proofs
