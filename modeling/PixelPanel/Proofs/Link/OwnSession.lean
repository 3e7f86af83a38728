import PixelPanel.Proofs.Link.Batches

/-!
# Messages in the session of their call

A send asks for the lock of the session in use, but nothing ties it to this session: when it goes on,
it writes to whatever socket is in use then. So its messages stay in its own session exactly as long as
no call with a lock of an earlier session goes on while the link is active.
-/

namespace PixelPanel.Link

/-- The lock that a call waits for or has. -/
def Call.lock? (call : Call) : Option ℕ :=
  match call.stage with
  | .opening _ => none
  | .waiting lock => some lock
  | .writing lock _ _ => some lock

end PixelPanel.Link

namespace PixelPanel.Proofs
open Link

/-- While the link is active no call waits that was made in another session than the one in use. -/
def Loyal (link : Link) : Prop :=
  link.phase = .active → ∀ call ∈ link.calls, call.lock? = none ∨ call.lock? = link.current

instance (link : Link) : Decidable (Loyal link) :=
  inferInstanceAs (Decidable (_ → _))

/-- At a moment every write that is held back is on the socket of its call's session, and no call of
another session is about to go on. -/
structure AtHome (link : Link) : Prop where
  ids : (link.calls.map Call.id).Nodup
  writing : ∀ call ∈ link.calls, ∀ lock socket message, call.stage = .writing lock socket message →
    socket = lock
  turn : link.phase = .active → ∀ call ∈ link.calls, call.id ∈ link.callers →
    ∀ lock, call.lock? = some lock → link.current = some lock

variable {id lock : ℕ} {held : Option ℕ} {link link' : Link} {call : Call}

/-- The end of a call does not make the link active, nor does it begin a session. -/
lemma phase_conclude (ending : Ending) (outcome : Outcome)
    (hactive : (link.conclude id ending outcome).phase = .active) :
    link.phase = .active ∧ (link.conclude id ending outcome).current = link.current := by
  have hstop : link.stopTasks.phase = link.phase ∧ link.stopTasks.current = link.current := by
    unfold stopTasks
    split <;> exact ⟨rfl, rfl⟩
  have hleave : ∀ outcome, (link.leave id outcome).phase = .active →
      link.phase = .active ∧ (link.leave id outcome).current = link.current := by
    intro outcome hactive
    unfold leave at hactive ⊢
    split at hactive
    · cases closeSocket_phase.symm.trans hactive
    · exact ⟨hstop.1.symm.trans hactive, hstop.2⟩
  unfold conclude at hactive ⊢
  split at hactive
  · exact ⟨hactive, rfl⟩
  · exact hleave _ hactive
  · exact hleave _ hactive

namespace AtHome

lemma congr (h : AtHome link) (hcalls : link'.calls = link.calls)
    (hcallers : link'.callers = link.callers)
    (hphase : link'.phase = .active → link.phase = .active ∧ link'.current = link.current) :
    AtHome link' where
  ids := hcalls ▸ h.ids
  writing := hcalls ▸ h.writing
  turn hactive := by
    rw [hcalls, hcallers, (hphase hactive).2]
    exact h.turn (hphase hactive).1

lemma aside (h : AtHome link) (haside : Aside link link') : AtHome link' :=
  h.congr haside.calls (callers_aside haside) haside.phase

lemma conclude (h : AtHome link) (ending : Ending) (outcome : Outcome) :
    AtHome (link.conclude id ending outcome) :=
  h.congr (calls_conclude ..) (callers_conclude ..) (phase_conclude _ _)

lemma fewer (h : AtHome link) (hcalls : link'.calls.Sublist link.calls)
    (hcallers : link'.callers ⊆ link.callers) (hphase : link'.phase = link.phase)
    (hcurrent : link'.current = link.current) : AtHome link' where
  ids := (hcalls.map _).nodup h.ids
  writing call hmem := h.writing call (hcalls.subset hmem)
  turn hactive call hmem hturn lock hlock := hcurrent.trans
    (h.turn (hphase.symm.trans hactive) call (hcalls.subset hmem) (hcallers hturn) lock hlock)

lemma suspend (h : AtHome link) (hid : ∀ other ∈ link.calls, other.id ≠ call.id)
    (hlock : ∀ lock, call.lock? = some lock → link.current = some lock)
    (hwriting : ∀ lock socket message, call.stage = .writing lock socket message → socket = lock) :
    AtHome (link.suspend call) where
  ids := by
    rw [Link.suspend, List.map_append, List.map_singleton]
    refine List.nodup_append.mpr ⟨h.ids, List.pairwise_singleton .., ?_⟩
    rintro id hmem _ hlast rfl
    obtain ⟨other, hother, rfl⟩ := List.mem_map.mp hmem
    exact hid other hother (List.mem_singleton.mp hlast)
  writing := forall_mem_concat h.writing hwriting
  turn hactive := forall_mem_concat (h.turn hactive) fun _ => hlock

lemma handOver (h : AtHome link) (hlock : link.phase = .active → link.current = some lock) :
    AtHome (link.handOver lock) := by
  unfold Link.handOver
  split
  · exact h
  · rename_i next hfind
    have hmem := List.mem_of_find?_eq_some hfind
    have hstage : next.stage = .waiting lock := by simpa using List.find?_some hfind
    refine { h with turn := fun hactive call hcall hturn lock' hlock' => ?_ }
    rw [callers, wake, List.filterMap_append] at hturn
    rcases List.mem_append.mp hturn with hold | hnew
    · exact h.turn hactive call hcall hold lock' hlock'
    · obtain rfl : call = next :=
        List.inj_on_of_nodup_map h.ids hcall hmem (List.mem_singleton.mp hnew)
      rw [Call.lock?, hstage] at hlock'
      exact (hlock hactive).trans hlock'

lemma abandon (h : AtHome link) (hheld : link.phase = .active → ∀ lock, held = some lock →
    link.current = some lock) (ending : Ending) (error : CallError) :
    AtHome (link.abandon id ending held error) := by
  cases held with
  | none => exact h.conclude ..
  | some lock => exact (h.handOver fun hactive => hheld hactive lock rfl).conclude ..

lemma failWrite (h : AtHome link) (ending : Ending) (error : SystemError) :
    AtHome (link.failWrite id ending held error) := by
  refine (h.aside (aside_retire _)).abandon ?_ ..
  exact fun hactive => by cases hactive

end AtHome

/-! ### Calls that run -/

/-- A call that runs with the lock of the session in use writes to the socket of this session. -/
lemma atHome_perform (ending : Ending) (held : Option ℕ) (actions : List Action) (link : Link)
    (h : AtHome link) (hid : ∀ call ∈ link.calls, call.id ≠ id)
    (hheld : link.phase = .active → ∀ lock, held = some lock → link.current = some lock) :
    AtHome (perform id ending held actions link) ∧
      ∀ one ∈ sentPerforming id held actions link, one.socket = one.session := by
  induction actions generalizing held link with
  | nil =>
    rw [perform, sentPerforming]
    exact ⟨h.conclude .., List.forall_mem_nil _⟩
  | cons action rest ih =>
    cases action with
    | acquire =>
      rcases exists_inUse_or link with ⟨session, hphase, hcurrent⟩ | hinactive
      · rw [perform, sentPerforming]
        simp only [hphase, hcurrent]
        split
        · refine ⟨h.suspend hid ?_ ?_, List.forall_mem_nil _⟩
          · rintro lock ⟨⟩
            exact hcurrent
          · exact fun _ _ _ hstage => by cases hstage
        · exact ih (some session) link h hid fun _ lock hlock => hcurrent.trans hlock
      · obtain ⟨hperform, hsent⟩ :=
          perform_of_not_inUse hinactive .acquire Link.Action.noConfusion ending held rest
        rw [hperform, hsent]
        exact ⟨h.abandon hheld .., List.forall_mem_nil _⟩
    | write message =>
      rcases exists_inUse_or link with ⟨socket, hphase, hcurrent⟩ | hinactive
      · have hsession : held.getD socket = socket := by
          cases hheld' : held with
          | none => rfl
          | some lock => exact (Option.some.inj (hcurrent.symm.trans (hheld hphase lock hheld'))).symm
        have hlog := h.aside (aside_log .debug ("Sending: " ++ Hex.encode message))
        rw [perform, sentPerforming]
        simp only [hphase, hcurrent]
        split
        · refine ⟨hlog.suspend hid ?_ ?_, List.forall_mem_nil _⟩
          · rintro lock ⟨⟩
            rw [hsession]
            exact hcurrent
          · rintro lock other sent hstage
            obtain ⟨hlock, hsocket, -⟩ := Stage.writing.inj hstage
            rw [← hlock, ← hsocket, hsession]
        · rcases tryWrite_cases (link.log .debug ("Sending: " ++ Hex.encode message)) socket message
            with ⟨fault, htry⟩ | ⟨error, htry⟩
          · rw [htry]
            have hrest := ih held ({ link.log .debug ("Sending: " ++ Hex.encode message) with
              writeFault := fault }.note (.written message)) { hlog with } hid hheld
            exact ⟨hrest.1, List.forall_mem_cons.mpr ⟨hsession.symm, hrest.2⟩⟩
          · rw [htry]
            exact ⟨hlog.failWrite .., List.forall_mem_nil _⟩
      · obtain ⟨hperform, hsent⟩ :=
          perform_of_not_inUse hinactive (.write message) Link.Action.noConfusion ending held rest
        rw [hperform, hsent]
        exact ⟨h.abandon hheld .., List.forall_mem_nil _⟩
    | release =>
      cases held with
      | none =>
        rw [perform, sentPerforming]
        exact ih none link h hid fun _ _ hlock => by cases hlock
      | some lock =>
        rw [perform, sentPerforming]
        refine ih none _ (h.handOver fun hactive => hheld hactive lock rfl) ?_ fun _ _ hlock => by
          cases hlock
        rw [calls_handOver]
        exact hid

/-! ### Turns -/

lemma AtHome.call_turn (h : AtHome link) {rest : List Wake}
    (hwakes : link.wakes = .call id :: rest) :
    AtHome (resumeCall { link with wakes := rest } id) ∧
      ∀ one ∈ sentResuming { link with wakes := rest } id, one.socket = one.session := by
  have hcallers : link.callers = id :: callers { link with wakes := rest } := by
    rw [callers, hwakes]
    rfl
  have hpop : AtHome { link with wakes := rest } := by
    refine h.fewer (List.Sublist.refl _) ?_ rfl rfl
    rw [hcallers]
    exact List.subset_cons_self ..
  rw [resumeCall, sentResuming]
  cases hfind : link.calls.find? (fun call => call.id == id) with
  | none =>
    exact ⟨hpop, List.forall_mem_nil _⟩
  | some call =>
    obtain ⟨hmem, rfl⟩ := mem_of_find?_id hfind
    have hremoved : AtHome (removeCall { link with wakes := rest } call.id) :=
      hpop.fewer List.filter_sublist (List.Subset.refl _) rfl rfl
    have hothers : ∀ other ∈ (removeCall { link with wakes := rest } call.id).calls,
        other.id ≠ call.id := fun other hother => id_ne_of_mem_removeCall hother
    have hlock : ∀ lock, call.lock? = some lock → link.phase = .active →
        ∀ held, some lock = some held → link.current = some held := by
      rintro lock hlock hactive held ⟨⟩
      refine h.turn hactive call hmem ?_ lock hlock
      rw [hcallers]
      exact List.mem_cons_self
    cases hstage : call.stage with
    | opening socket =>
      simp only [hstage]
      exact ⟨hpop, List.forall_mem_nil _⟩
    | waiting lock =>
      simp only [hstage]
      exact atHome_perform _ _ _ _ hremoved hothers (hlock lock (by rw [Call.lock?, hstage]))
    | writing lock socket message =>
      simp only [hstage]
      obtain rfl := h.writing call hmem lock socket message hstage
      rcases tryWrite_cases (removeCall { link with wakes := rest } call.id) socket message
        with ⟨fault, htry⟩ | ⟨error, htry⟩
      · rw [htry]
        have hrest := @atHome_perform call.id call.ending (some socket) call.actions
          ({ removeCall { link with wakes := rest } call.id with writeFault := fault }.note
            (.written message)) { hremoved with } hothers
          (hlock socket (by rw [Call.lock?, hstage]))
        exact ⟨hrest.1, List.forall_mem_cons.mpr ⟨rfl, hrest.2⟩⟩
      · rw [htry]
        exact ⟨hremoved.failWrite .., List.forall_mem_nil _⟩

lemma AtHome.aside_turn (h : AtHome link) {wake : Wake} {rest : List Wake}
    (hwakes : link.wakes = wake :: rest) (hwake : wake.caller? = none) :
    AtHome ({ link with wakes := rest }.resume wake) := by
  have hpop : AtHome { link with wakes := rest } := by
    refine h.fewer (List.Sublist.refl _) ?_ rfl rfl
    rw [callers, callers, hwakes, List.filterMap_cons_none hwake]
    exact List.Subset.refl _
  cases wake with
  | call id => cases hwake
  | leaving id turns outcome =>
    cases turns with
    | zero =>
      refine hpop.congr closeSocket_calls (callers_congr closeSocket_wakes) fun hactive => ?_
      cases closeSocket_phase.symm.trans hactive
    | succ turns =>
      refine hpop.congr rfl ?_ fun hactive => ⟨hactive, rfl⟩
      change List.filterMap Wake.caller? (rest ++ [_]) = List.filterMap Wake.caller? rest
      rw [List.filterMap_append]
      exact List.append_nil _
  | worker session => exact hpop.aside (aside_of_works (resume_works rfl))
  | delivery going => exact hpop.aside (aside_of_works (resume_works rfl))
  | returned listener going => exact hpop.aside (aside_of_works (resume_works rfl))

/-- Everything was sent in the session of its call, and the calls that wait will do the same. -/
structure Kept (sent : List Sent) (link : Link) : Prop where
  home : AtHome link
  own : ∀ one ∈ sent, one.socket = one.session

lemma Kept.turn {sent : List Sent} (h : Kept sent link) {wake : Wake} {rest : List Wake}
    (hwakes : link.wakes = wake :: rest) :
    Kept (sent ++ sentInTurn { link with wakes := rest } wake)
      ({ link with wakes := rest }.resume wake) := by
  cases hcaller : wake.caller? with
  | none =>
    have hquiet : sentInTurn { link with wakes := rest } wake = [] := by
      cases wake <;> first | rfl | cases hcaller
    rw [hquiet, List.append_nil]
    exact ⟨h.home.aside_turn hwakes hcaller, h.own⟩
  | some id =>
    obtain rfl : wake = .call id := by
      cases wake <;> simp_all [Wake.caller?]
    have hturn := h.home.call_turn hwakes
    exact ⟨hturn.1, List.forall_mem_append.mpr ⟨h.own, hturn.2⟩⟩

/-! ### Events -/

/-- When nothing has a turn to come, a new session changes nothing for the calls that wait. -/
lemma AtHome.joined (h : AtHome link) (hcallers : link.callers = []) (socket : ℕ) :
    AtHome (link.joined socket) where
  ids := h.ids
  writing := h.writing
  turn _ call _ hturn := by
    have hnone : (link.joined socket).callers = [] := hcallers
    rw [hnone] at hturn
    exact (List.not_mem_nil hturn).elim

lemma AtHome.removeCall (h : AtHome link) (id : ℕ) : AtHome (link.removeCall id) :=
  h.fewer List.filter_sublist (List.Subset.refl _) rfl rfl

/-- A lock that a call of the session in use has is the lock of this session. -/
lemma Loyal.current (h : Loyal link) (hmem : call ∈ link.calls) (hlock : call.lock? = some lock)
    (hactive : link.phase = .active) : link.current = some lock := by
  have hcall := (h hactive call hmem).resolve_left (by simp [hlock])
  exact hcall.symm.trans hlock

variable {sent : List Sent}

lemma Kept.quiet (h : Kept sent link) (hhome : AtHome link') : Kept (sent ++ []) link' :=
  ⟨hhome, by rw [List.append_nil]; exact h.own⟩

/-- A call begins to run without a lock. -/
lemma Kept.perform (h : Kept sent link) {start : Link} (hstart : AtHome start)
    (hid : ∀ call ∈ start.calls, call.id ≠ id) (ending : Ending) (actions : List Action) :
    Kept (sent ++ sentPerforming id none actions start)
      (Link.perform id ending none actions start) := by
  have hrun := atHome_perform ending none actions start hstart hid fun _ _ hlock => by cases hlock
  exact ⟨hrun.1, List.forall_mem_append.mpr ⟨h.own, hrun.2⟩⟩

end PixelPanel.Proofs
