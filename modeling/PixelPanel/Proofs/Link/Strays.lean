import PixelPanel.Proofs.Link.Attempts
import PixelPanel.Proofs.Link.FinalDisconnect

/-!
# Sessions astray

A session is astray if its socket is open though nobody will close it: it is not in use, and no attempt
waits for it. As long as no attempt waits beside a session in use, nothing that a link does leads a
session astray, and nothing brings one back.
-/

namespace PixelPanel.Proofs
open Link

/-- The socket of a session is open, but neither in use nor that of an attempt. -/
def Astray (link : Link) (session : ℕ) : Prop :=
  link.isOpen session ∧ session ∉ taken link

/-- The same sessions are astray as before. -/
structure SameStrays (link link' : Link) : Prop where
  astray : ∀ session, Astray link' session ↔ Astray link session

variable {next session socket id : ℕ} {tidy : Prop} {link link' link'' : Link}

lemma SameStrays.refl (link : Link) : SameStrays link link :=
  ⟨fun _ => Iff.rfl⟩

lemma SameStrays.trans (h : SameStrays link link') (h' : SameStrays link' link'') :
    SameStrays link link'' :=
  ⟨fun session => (h'.astray session).trans (h.astray session)⟩

lemma astray_iff : Astray link session ↔
    link.isOpen session ∧ session ∉ (standing link).attempts ∧ link.current ≠ some session := by
  rw [Astray, taken, ← attempts_standing, List.mem_append, not_or, Option.mem_toList]

/-- At rest, without an attempt that waits, all open sockets but the one in use are astray. -/
lemma astray_iff_of_attempts (hattempts : ∀ call ∈ link.calls, call.socket? = none) :
    Astray link session ↔ link.isOpen session ∧ link.current ≠ some session := by
  have hnone : (standing link).attempts = [] := by
    rw [attempts_standing]
    exact List.filterMap_eq_nil_iff.mpr hattempts
  simp [astray_iff, hnone]

lemma sameStrays_of_eq (hopen : link'.isOpen = link.isOpen) (hcurrent : link'.current = link.current)
    (hattempts : (standing link').attempts = (standing link).attempts) : SameStrays link link' := by
  refine ⟨fun session => ?_⟩
  rw [astray_iff, astray_iff, hopen, hcurrent, hattempts]

lemma sameStrays_of_standing (h : standing link' = standing link) : SameStrays link link' :=
  sameStrays_of_eq (congrArg Standing.isOpen h) (congrArg Standing.current h)
    (congrArg Standing.attempts h)

/-! ### Calls -/

lemma sameStrays_retire (reason : String) : SameStrays link (link.retire reason) := by
  have hretire := @standing_retire link reason
  refine sameStrays_of_eq (congrArg Standing.isOpen hretire) (congrArg Standing.current hretire) ?_
  rw [hretire]
  rfl

lemma attempts_suspend (call : Call) : (standing (link.suspend call)).attempts =
    (standing link).attempts ++ call.socket?.toList := by
  rw [standing_suspend, Standing.attempts, List.filterMap_append]
  cases hsocket : call.socket? <;> simp [Standing.attempts]

lemma sameStrays_suspend {call : Call} (hsocket : call.socket? = none) :
    SameStrays link (link.suspend call) := by
  refine sameStrays_of_eq rfl rfl ?_
  rw [attempts_suspend, hsocket]
  exact List.append_nil _

lemma isOpen_modifySession_of_false {change : Session → Session}
    (hchange : ∀ found, (change found).isOpen = false) (socket session : ℕ) :
    (link.modifySession socket change).isOpen session ↔ link.isOpen session ∧ session ≠ socket := by
  rw [isOpen, isOpen, modifySession, List.getElem?_modify]
  by_cases heq : socket = session
  · cases hfound : link.sessions[session]? <;> simp [heq, hchange]
  · cases hfound : link.sessions[session]? <;> simp [heq, Ne.symm heq]

lemma sameStrays_closeSocket : SameStrays link link.closeSocket := by
  cases hcurrent : link.current with
  | none =>
    rw [closeSocket_of_none hcurrent]
    exact sameStrays_of_eq rfl rfl rfl
  | some current =>
    refine ⟨fun session => ?_⟩
    have hopen := @isOpen_modifySession_of_false link (fun found => { found with isOpen := false })
      (fun _ => rfl) current session
    have hclosed : Astray link.closeSocket session ↔
        (link.isOpen session ∧ session ≠ current) ∧ session ∉ (standing link).attempts ∧
          none ≠ some session := by
      rw [closeSocket_of_some hcurrent, ← hopen]
      exact astray_iff
    rw [hclosed, astray_iff, hcurrent, ne_eq (some current), Option.some.injEq]
    tauto

lemma sameStrays_stopTasks : SameStrays link link.stopTasks := by
  have hcalls : (standing link.stopTasks).attempts = (standing link).attempts := by
    rw [attempts_standing, attempts_standing, stopTasks_calls]
  exact sameStrays_of_eq isOpen_stopTasks current_stopTasks hcalls

lemma sameStrays_hangUp : SameStrays link link.hangUp :=
  sameStrays_stopTasks.trans sameStrays_closeSocket

lemma sameStrays_conclude (id : ℕ) (ending : Ending) (outcome : Outcome) :
    SameStrays link (link.conclude id ending outcome) := by
  have hleave : ∀ outcome, SameStrays link (link.leave id outcome) := by
    intro outcome
    unfold leave
    split
    · exact sameStrays_closeSocket.trans (sameStrays_of_eq rfl rfl rfl)
    · exact sameStrays_stopTasks.trans (sameStrays_of_eq rfl rfl rfl)
  unfold conclude
  split
  · exact sameStrays_of_eq rfl rfl rfl
  · exact hleave _
  · exact hleave _

lemma sameStrays_abandon (id : ℕ) (ending : Ending) (lock : Option ℕ) (error : CallError) :
    SameStrays link (link.abandon id ending lock error) := by
  cases lock with
  | none => exact sameStrays_conclude ..
  | some lock =>
    exact (sameStrays_of_standing (standing_handOver lock)).trans (sameStrays_conclude ..)

lemma sameStrays_perform (id : ℕ) (ending : Ending) (lock : Option ℕ) (actions : List Action)
    (link : Link) : SameStrays link (perform id ending lock actions link) := by
  refine perform_induction (P := SameStrays link) (Q := SameStrays link) ?_ ?_ ?_ ?_ ?_ ?_ ?_
    lock actions link (SameStrays.refl link)
  · exact fun _ _ h => h.trans (sameStrays_of_standing (standing_log ..))
  · exact fun _ lock h => h.trans (sameStrays_of_standing (standing_handOver lock))
  · exact fun _ _ _ h _ _ _ => h.trans (sameStrays_suspend rfl)
  · exact fun _ _ _ _ _ h _ _ _ => h.trans (sameStrays_suspend rfl)
  · exact fun _ socket message h _ _ =>
      h.trans (sameStrays_of_standing (standing_tryWrite socket message))
  · exact fun _ reason h _ => h.trans (sameStrays_retire reason)
  · exact fun _ outcome h => h.trans (sameStrays_conclude id ending outcome)

lemma sameStrays_removeCall (hsound : Sound next tidy (standing link)) {call : Call}
    (hmem : call ∈ link.calls) (hsocket : call.socket? = none) :
    SameStrays link (link.removeCall call.id) := by
  refine sameStrays_of_eq rfl rfl ?_
  rw [attempts_standing, attempts_standing, removeCall, List.filterMap_filter]
  refine List.filterMap_congr fun other hother => ?_
  split
  · rfl
  · rename_i heq
    have hid : other.id = call.id := by simpa using heq
    have hcall : (call.id, other.socket?) ∈ (standing link).calls :=
      List.mem_map.mpr ⟨other, hother, by rw [hid]⟩
    have hsame := hsound.eq_of_id hcall (List.mem_map.mpr ⟨call, hmem, rfl⟩)
    rw [hsame, hsocket]

lemma sameStrays_resumeCall (hsound : Sound next tidy (standing link)) (id : ℕ) :
    SameStrays link (link.resumeCall id) := by
  unfold resumeCall
  split
  · exact SameStrays.refl link
  · rename_i call hfind
    obtain ⟨hmem, rfl⟩ := mem_of_find?_id hfind
    split
    · exact SameStrays.refl link
    · rename_i lock hstage
      have hremoved := sameStrays_removeCall hsound hmem (by rw [Call.socket?, hstage])
      exact hremoved.trans (sameStrays_perform ..)
    · rename_i lock socket message hstage
      have hremoved := sameStrays_removeCall hsound hmem (by rw [Call.socket?, hstage])
      have htry := hremoved.trans (sameStrays_of_standing (standing_tryWrite socket message))
      split <;> rename_i heq <;> rw [heq] at htry
      · exact htry.trans (sameStrays_perform ..)
      · exact (htry.trans (sameStrays_retire _)).trans (sameStrays_abandon ..)

/-! ### Turns -/

lemma sameStrays_turn (hsound : Sound next tidy (standing link)) {wake : Wake} {rest : List Wake}
    (hwakes : link.wakes = wake :: rest) :
    SameStrays link ({ link with wakes := rest }.resume wake) := by
  have hpop : SameStrays link { link with wakes := rest } := sameStrays_of_eq rfl rfl rfl
  cases hworker : workerOf? wake with
  | some owner =>
    obtain ⟨inbox, notes, idle, wakes, blocked, change, -, -, hchange, hworks⟩ :=
      @resume_works { link with wakes := rest } _ _ hworker
    rw [hworks]
    exact sameStrays_of_eq (getD_map_modify_of_eq Session.isOpen false hchange.isOpen) rfl rfl
  | none =>
    cases wake with
    | call id =>
      have hpopped : Sound next tidy (standing { link with wakes := rest }) := by
        have hsame : rest.any Wake.isLeaving = (standing link).isLeaving := by
          simp [standing, hwakes, Wake.isLeaving]
        rw [standing_pop hwakes hworker, hsame]
        exact hsound
      exact hpop.trans (sameStrays_resumeCall hpopped id)
    | leaving id turns outcome =>
      cases turns with
      | zero => exact (hpop.trans sameStrays_closeSocket).trans (sameStrays_of_eq rfl rfl rfl)
      | succ turns => exact sameStrays_of_eq rfl rfl rfl
    | worker session => cases hworker
    | delivery going => cases hworker
    | returned listener going => cases hworker

/-! ### Attempts -/

/-- An attempt that no longer waits leaves its socket astray, unless something is done about it. -/
lemma astray_removeAttempt (hsound : Sound next tidy (standing link)) {call : Call}
    (hmem : call ∈ link.calls) (hsocket : call.socket? = some socket) (session : ℕ) :
    (Astray (link.removeCall call.id) session ∧ session ≠ socket) ↔ Astray link session := by
  have hcall := mem_calls_standing hmem hsocket
  have hiff := hsound.mem_attempts_filter_iff hcall session
  have hattempts := Sound.mem_attempts hcall
  rw [← standing_removeCall] at hiff
  rw [astray_iff, astray_iff, hiff]
  change (link.isOpen session ∧ _ ∧ link.current ≠ some session) ∧ _ ↔ _
  constructor
  · tauto
  · rintro ⟨hopen, hattempt, hcurrent⟩
    have hne : session ≠ socket := fun heq => hattempt (heq ▸ hattempts)
    tauto

lemma astray_dropSocket (socket session : ℕ) :
    Astray (link.dropSocket socket) session ↔ Astray link session ∧ session ≠ socket := by
  have hopen := @isOpen_modifySession_of_false link (fun found => { found with isOpen := false })
    (fun _ => rfl) socket session
  have hdropped : Astray (link.dropSocket socket) session ↔
      (link.isOpen session ∧ session ≠ socket) ∧ session ∉ taken link := by
    rw [← hopen]
    rfl
  rw [hdropped, Astray]
  tauto

/-- Whatever the answer to an attempt is, its socket does not go astray. -/
lemma astray_answerAttempt (hcurrent : link.current = none) (id socket : ℕ) (actions : List Action)
    (ending : Ending) (answer : Answer) (session : ℕ) :
    Astray (link.answerAttempt id socket actions ending answer) session ↔
      Astray link session ∧ session ≠ socket := by
  cases answer with
  | accepted =>
    have hopen : (attached link socket).isOpen = link.isOpen :=
      getD_map_modify_of_eq Session.isOpen false fun _ => rfl
    have hattached : Astray (attached link socket) session ↔
        link.isOpen session ∧ session ∉ (standing link).attempts ∧ some socket ≠ some session := by
      rw [← hopen]
      exact astray_iff
    rw [answerAttempt, attach_eq, (sameStrays_perform ..).astray]
    refine hattached.trans ?_
    rw [astray_iff, hcurrent, ne_eq (some socket), Option.some.injEq]
    have hnone : none ≠ some session := (Option.some_ne_none session).symm
    tauto
  | refused error => exact astray_dropSocket ..
  | unsupported => exact astray_dropSocket ..
  | later =>
    have hattempts := @attempts_suspend link ⟨id, .opening socket, actions, ending⟩
    rw [answerAttempt, astray_iff, hattempts, astray_iff, List.mem_append, not_or]
    change _ ∧ (_ ∧ session ∉ [socket]) ∧ _ ↔ _
    rw [List.mem_singleton]
    change link.isOpen session ∧ _ ∧ link.current ≠ some session ↔ _
    tauto

lemma astray_newSocket (session : ℕ) :
    (Astray { link with sessions := link.sessions ++ [{ isOpen := true }] } session ∧
      session ≠ link.sessions.length) ↔ Astray link session := by
  have hopen : isOpen { link with sessions := link.sessions ++ [{ isOpen := true }] } session =
      Function.update link.isOpen link.sessions.length true session :=
    congrFun (congrArg Standing.isOpen standing_newSocket) session
  have hnew : Astray { link with sessions := link.sessions ++ [{ isOpen := true }] } session ↔
      Function.update link.isOpen link.sessions.length true session ∧ session ∉ taken link :=
    and_congr_left' (by rw [hopen])
  rw [hnew, Astray]
  constructor
  · rintro ⟨⟨hsession, htaken⟩, hne⟩
    rw [Function.update_of_ne hne] at hsession
    exact ⟨hsession, htaken⟩
  · rintro ⟨hsession, htaken⟩
    have hlt : session < link.sessions.length := lt_of_isOpen hsession
    rw [Function.update_of_ne hlt.ne]
    exact ⟨⟨hsession, htaken⟩, hlt.ne⟩

lemma sameStrays_cleaned : SameStrays link link.cleaned := by
  unfold cleaned
  split
  · exact sameStrays_hangUp
  · exact SameStrays.refl link

lemma sameStrays_connect (id : ℕ) (actions : List Action) (ending : Ending) (answer : Answer) :
    SameStrays link (link.connect id actions ending answer) := by
  unfold connect
  split
  · exact sameStrays_of_eq rfl rfl rfl
  · have hclean : (if link.owned.isSome ∨ link.current.isSome then link.hangUp else link) =
        link.cleaned := rfl
    have hcurrent := current_cleaned link
    rw [hclean]
    refine (@sameStrays_cleaned link).trans ?_
    generalize link.cleaned = clean at hcurrent ⊢
    dsimp only
    split
    · exact sameStrays_of_eq rfl rfl rfl
    · rename_i octets _
      split
      · exact sameStrays_of_eq rfl rfl rfl
      · refine ⟨fun session => ?_⟩
        rw [astray_answerAttempt (by exact hcurrent)]
        exact @astray_newSocket clean session

lemma sameStrays_answerYoungest (hsound : Sound next tidy (standing link)) (hexclusive : Exclusive link)
    (answer : Answer) : SameStrays link (link.answerYoungest answer) := by
  unfold answerYoungest
  split
  · exact SameStrays.refl link
  · rename_i call hfind
    have hmem : call ∈ link.calls := List.mem_reverse.mp (List.mem_of_find?_eq_some hfind)
    split
    · exact SameStrays.refl link
    · exact SameStrays.refl link
    · rename_i socket hsocket _
      have hcurrent : (link.removeCall call.id).current = none :=
        hexclusive call hmem (by rw [hsocket]; rfl)
      refine ⟨fun session => ?_⟩
      rw [astray_answerAttempt hcurrent]
      exact astray_removeAttempt hsound hmem hsocket session

lemma sameStrays_cancel (hsound : Sound next tidy (standing link)) (id : ℕ) :
    SameStrays link (link.cancel id) := by
  unfold cancel
  split
  · exact SameStrays.refl link
  · rename_i call hfind
    obtain ⟨hmem, rfl⟩ := mem_of_find?_id hfind
    dsimp only
    split
    · rename_i socket hstage
      have hsocket : call.socket? = some socket := by rw [Call.socket?, hstage]
      refine ⟨fun session => ?_⟩
      exact (@astray_dropSocket (link.removeCall call.id) socket session).trans
        (astray_removeAttempt hsound hmem hsocket session)
    · rename_i hstage
      have hremoved := sameStrays_removeCall hsound hmem (by rw [Call.socket?, hstage])
      exact hremoved.trans (sameStrays_abandon ..)
    · rename_i hstage
      have hremoved := sameStrays_removeCall hsound hmem (by rw [Call.socket?, hstage])
      exact hremoved.trans (sameStrays_abandon ..)

/-! ### Events, steps and runs -/

lemma sameStrays_act (hsound : Sound next tidy (standing link)) (hexclusive : Exclusive link)
    (id : ℕ) (event : Event) : SameStrays link (link.act id event) := by
  cases event with
  | connect answer => exact sameStrays_connect ..
  | answer answer => exact sameStrays_answerYoungest hsound hexclusive answer
  | cancel call => exact sameStrays_cancel hsound call
  | disconnect => exact sameStrays_hangUp.trans (sameStrays_of_eq rfl rfl rfl)
  | scope messages raises answer => exact sameStrays_connect ..
  | send messages => exact sameStrays_perform ..
  | deviceSends octets => exact sameStrays_of_standing (standing_read octets)
  | deviceCloses =>
    have hend := @standing_readEnd link
    refine sameStrays_of_eq (congrArg Standing.isOpen hend) (congrArg Standing.current hend) ?_
    rw [act, hend]
    rfl
  | readFails error =>
    obtain heq | ⟨reader, heq⟩ := @exists_standing_readError link error
    · exact sameStrays_of_standing heq
    · refine sameStrays_of_eq (congrArg Standing.isOpen heq) (congrArg Standing.current heq) ?_
      rw [act, heq]
      rfl
  | openGate => exact sameStrays_of_standing standing_openGate
  | addAgain name =>
    rw [act]
    split
    · exact SameStrays.refl link
    · exact sameStrays_of_eq rfl rfl rfl
  | removeObserver name =>
    rw [act]
    split
    · exact sameStrays_of_eq rfl rfl rfl
    · split <;> exact sameStrays_of_eq rfl rfl rfl
  | _ => exact sameStrays_of_eq rfl rfl rfl

/-- As long as no attempt waits beside a session in use, an event leads no session astray. -/
lemma sameStrays_step (hsound : Sound link.clock tidy (standing link)) (hwakes : link.wakes = [])
    (hexclusive : Exclusive link) (event : Event) : SameStrays link (link.step event) := by
  have hmoments := drain_induction (P := fun moment =>
    Sound (link.clock + 1) False (standing moment) ∧ SameStrays link moment)
    (fun moment wake rest hmoment hwakes =>
      ⟨sound_turn hmoment.1 hwakes, hmoment.2.trans (sameStrays_turn hmoment.1 hwakes)⟩)
    (link.act link.clock event).load (link.act link.clock event)
    ⟨sound_act { hsound with strays := False.elim } hwakes False.elim event,
      sameStrays_act hsound hexclusive link.clock event⟩
  exact hmoments.2.trans (sameStrays_of_eq rfl rfl rfl)

lemma wakes_run (hwakes : link.wakes = []) (events : List Event) : (link.run events).wakes = [] := by
  cases events using List.reverseRecOn with
  | nil => exact hwakes
  | append_singleton events event =>
    rw [run_concat]
    exact wakes_step ..

lemma sound_run (hsound : Sound link.clock False (standing link)) (hwakes : link.wakes = [])
    (events : List Event) : Sound (link.run events).clock False (standing (link.run events)) := by
  induction events generalizing link with
  | nil => exact hsound
  | cons event later ih => exact ih (sound_step hsound hwakes False.elim event) (wakes_step link event)

end PixelPanel.Proofs
