import PixelPanel.Proofs.Link.Bystanders

/-!
# Events at which nobody hears anything

Only what the device sends and the gate give turns to workers. Any other event runs its course without
them: no chunk is handed to anybody.
-/

namespace PixelPanel.Proofs
open Link

variable {link : Link}

lemma quiet_note {seen : Note} (h : seen.byListeners = false) : Quiet link (link.note seen) :=
  (@spares_note 0 link _ h).toQuiet

lemma quiet_log (level : Level) (message : String) : Quiet link (link.log level message) :=
  quiet_note rfl

lemma quiet_attach (id socket : ℕ) (actions : List Action) (ending : Ending) :
    Quiet link (link.attach id socket actions ending) := by
  have hbegun : Quiet link (link.modifySession socket fun found =>
      { found with reading := true, idle := link.workers, queue := [] }) := { Quiet.refl link with }
  have hactive : ∀ link : Link, Quiet link { link with
      current := some socket, owned := some socket, dropped := 0, phase := .active } :=
    fun link => { Quiet.refl link with }
  rw [attach]
  refine (hbegun.trans (hactive _)).trans ?_
  exact ((quiet_note rfl).trans (quiet_log ..)).trans (@spares_perform 0 ..).toQuiet

lemma quiet_failConnect (id : ℕ) (reason : String) : Quiet link (link.failConnect id reason) := by
  have hdown : Quiet link { link with phase := .disconnected } := { Quiet.refl link with }
  exact hdown.trans (quiet_note rfl)

lemma quiet_dropSocket (socket : ℕ) : Quiet link (link.dropSocket socket) := by
  have hclosed : Quiet link (link.modifySession socket fun found => { found with isOpen := false }) :=
    { Quiet.refl link with }
  exact hclosed.trans (quiet_note rfl)

lemma quiet_answerAttempt (id socket : ℕ) (actions : List Action) (ending : Ending)
    (answer : Answer) : Quiet link (link.answerAttempt id socket actions ending answer) := by
  cases answer with
  | accepted => exact quiet_attach ..
  | refused error => exact (quiet_dropSocket socket).trans (quiet_failConnect ..)
  | unsupported => exact (quiet_dropSocket socket).trans (quiet_failConnect ..)
  | later => exact { Quiet.refl link with }

lemma quiet_connect (id : ℕ) (actions : List Action) (ending : Ending) (answer : Answer) :
    Quiet link (link.connect id actions ending answer) := by
  unfold connect
  split
  · exact quiet_note rfl
  · have hclean : Quiet link
        (if link.owned.isSome ∨ link.current.isSome then link.hangUp else link) := by
      split
      · exact (@spares_hangUp 0 link).toQuiet
      · exact Quiet.refl link
    refine hclean.trans ?_
    generalize (if link.owned.isSome ∨ link.current.isSome then link.hangUp else link) = clean
    have hdial : Quiet clean { clean with phase := .connecting } := { Quiet.refl clean with }
    have hopen : ∀ link : Link, Quiet link { link with
        sessions := link.sessions ++ [({ isOpen := true } : Session)] } :=
      fun link => { Quiet.refl link with }
    refine (hdial.trans (quiet_log .info
      s!"Connecting to {clean.address} on RFCOMM channel {clean.channel}")).trans ?_
    dsimp only
    split
    · exact quiet_failConnect ..
    · rename_i octets _
      refine (quiet_log .debug s!"bdaddr (sockaddr_rc order): {Hex.encode octets}").trans ?_
      split
      · exact quiet_failConnect ..
      · exact ((hopen _).trans (quiet_note rfl)).trans (quiet_answerAttempt ..)

lemma quiet_answerYoungest (answer : Answer) : Quiet link (link.answerYoungest answer) := by
  unfold answerYoungest
  split
  · exact Quiet.refl link
  · rename_i call _
    split
    · exact Quiet.refl link
    · exact Quiet.refl link
    · exact (@spares_removeCall 0 link call.id).toQuiet.trans (quiet_answerAttempt ..)

lemma quiet_retire (reason : String) : Quiet link (link.retire reason) :=
  (@spares_retire 0 link reason).toQuiet

lemma quiet_readEnd : Quiet link link.readEnd := by
  have hfold : ∀ (sessions : List Session) (link : Link), Quiet link (sessions.foldl
      (fun link session => if session.reading then link.retire "closed by device" else link) link) := by
    intro sessions
    induction sessions with
    | nil => exact Quiet.refl
    | cons session rest ih =>
      intro link
      rw [List.foldl_cons]
      split
      · exact (quiet_retire _).trans (ih _)
      · exact ih link
  have hquiet : Quiet link { link with
      sessions := link.sessions.map fun session => { session with reading := false } } :=
    { Quiet.refl link with }
  exact hquiet.trans (hfold ..)

lemma quiet_readError (error : SystemError) : Quiet link (link.readError error) := by
  unfold readError
  split
  · exact Quiet.refl link
  · rename_i reader _
    have hquiet : Quiet link (link.modifySession reader fun found => { found with reading := false }) :=
      { Quiet.refl link with }
    exact hquiet.trans (quiet_retire _)

/-- No event makes anybody hear anything at once, and only chunks and the gate give turns to workers. -/
lemma quiet_act {event : Event} (hsends : ∀ octets, event ≠ .deviceSends octets)
    (hgate : event ≠ .openGate) (id : ℕ) : Quiet link (link.act id event) := by
  have hsame : Quiet link link := Quiet.refl link
  cases event with
  | connect answer => exact quiet_connect ..
  | answer answer => exact quiet_answerYoungest answer
  | cancel call => exact (@spares_cancel 0 link call).toQuiet
  | disconnect => exact (@spares_hangUp 0 link).toQuiet.trans (quiet_note rfl)
  | scope messages raises answer => exact quiet_connect ..
  | send messages => exact (@spares_perform 0 ..).toQuiet
  | deviceSends octets => exact (hsends octets rfl).elim
  | deviceCloses => exact quiet_readEnd
  | readFails error => exact quiet_readError error
  | writesFail error after => exact { hsame with }
  | writesSucceed => exact { hsame with }
  | holdWrites => exact { hsame with }
  | releaseWrites =>
    have hfree : Quiet link { link with writesHeld := false } := { hsame with }
    refine hfree.trans (@spares_wake 0 _ _ fun wake hmem => ?_).toQuiet
    obtain ⟨call, -, rfl⟩ := List.mem_map.mp hmem
    rfl
  | addObserver name manner fails => exact { hsame with }
  | addAgain name =>
    rw [act]
    split
    · exact hsame
    · exact { hsame with }
  | removeObserver name =>
    rw [act]
    split
    · exact quiet_note rfl
    · split
      · exact { hsame with }
      · exact quiet_note rfl
  | openGate => exact (hgate rfl).elim
  | closeGate => exact { hsame with }
  | nothing => exact hsame

/-! ### After an event -/

/-- The turns to come are those of calls only, or those of workers only. -/
def Unmixed (link : Link) : Prop :=
  callTurns link = [] ∨ link.workerTurns = []

lemma workerTurns_ne_nil {wake : Wake} {rest : List Wake} (hwakes : link.wakes = wake :: rest)
    {session : ℕ} (hworker : workerOf? wake = some session) : link.workerTurns ≠ [] := by
  rw [workerTurns_cons hwakes hworker]
  exact List.cons_ne_nil _ _

lemma callTurns_ne_nil {wake : Wake} {rest : List Wake} (hwakes : link.wakes = wake :: rest)
    (hcall : workerOf? wake = none) : callTurns link ≠ [] := by
  rw [callTurns, hwakes, List.filter_cons_of_pos (by rw [hcall]; rfl)]
  exact List.cons_ne_nil _ _

lemma Unmixed.turn (h : Unmixed link) {wake : Wake} {rest : List Wake}
    (hwakes : link.wakes = wake :: rest) : Unmixed ({ link with wakes := rest }.resume wake) := by
  cases hworker : workerOf? wake with
  | none =>
    have hquiet := (@spares_turn 0 _ _ _ hwakes hworker).turns
    rw [h.resolve_left (callTurns_ne_nil hwakes hworker)] at hquiet
    exact .inr (List.sublist_nil.mp hquiet)
  | some session =>
    have hcalls := h.resolve_right (workerTurns_ne_nil hwakes hworker)
    rw [callTurns, hwakes, List.filter_eq_nil_iff] at hcalls
    have haside := aside_of_works (@resume_works { link with wakes := rest } _ _ hworker)
    refine .inl (haside.turns.trans (List.filter_eq_nil_iff.mpr fun later hlater => ?_))
    exact hcalls later (List.mem_cons_of_mem _ hlater)

lemma exists_wakes_read (octets : Octets) : ∃ count session,
    (link.read octets).wakes = link.wakes ++ List.replicate count (.worker session) := by
  have hfold : ∀ (pieces : List Octets) (link : Link), (pieces.foldl
      (fun link chunk => (link.log .debug ("Received: " ++ Hex.encode chunk)).enqueue chunk)
      link).wakes = link.wakes := by
    intro pieces
    induction pieces with
    | nil => exact fun _ => rfl
    | cons piece rest ih =>
      intro link
      rw [List.foldl_cons, ih, enqueue]
      split
      · rfl
      · split <;> rfl
  have hnone : ∃ count session, link.wakes =
      link.wakes ++ List.replicate count (.worker session) := ⟨0, 0, (List.append_nil _).symm⟩
  unfold Link.read
  split
  · dsimp only
    split
    · rw [hfold]
      exact hnone
    · unfold rouse
      split
      · rw [hfold]
        exact hnone
      · exact ⟨_, _, congrArg (· ++ _) (hfold (chunks octets) link)⟩
  · exact hnone

lemma turns_act_of_quiet (hwakes : link.wakes = []) {event : Event}
    (hsends : ∀ octets, event ≠ .deviceSends octets) (hgate : event ≠ .openGate) (id : ℕ) :
    (link.act id event).workerTurns = [] := by
  have hturns := (@quiet_act link event hsends hgate id).turns
  rw [workerTurns_of_nil hwakes] at hturns
  exact List.sublist_nil.mp hturns

/-- Chunks and the gate give turns to workers only; after any other event no worker has a turn. -/
lemma turns_act (hwakes : link.wakes = []) (id : ℕ) (event : Event) :
    (link.act id event).workerTurns = [] ∨ callTurns (link.act id event) = [] ∧
      ∀ wake ∈ (link.act id event).wakes,
        (∃ session, wake = .worker session) ∨ ∃ going, wake = .delivery going := by
  by_cases hsends : ∃ octets, event = .deviceSends octets
  · obtain ⟨octets, rfl⟩ := hsends
    obtain ⟨count, session, hread⟩ := @exists_wakes_read link octets
    refine .inr ⟨(aside_read octets).turns.trans (callTurns_eq_nil hwakes), fun wake hmem => ?_⟩
    rw [act, hread, hwakes, List.nil_append] at hmem
    exact .inl ⟨session, List.eq_of_mem_replicate hmem⟩
  · by_cases hgate : event = .openGate
    · subst hgate
      refine .inr ⟨aside_openGate.turns.trans (callTurns_eq_nil hwakes), fun wake hmem => ?_⟩
      rw [act, Link.wake, hwakes, List.nil_append] at hmem
      obtain ⟨going, -, rfl⟩ := List.mem_map.mp hmem
      exact .inr ⟨going, rfl⟩
    · exact .inl (turns_act_of_quiet hwakes (fun octets heq => hsends ⟨octets, heq⟩) hgate id)

lemma unmixed_act (hwakes : link.wakes = []) (id : ℕ) (event : Event) :
    Unmixed (link.act id event) :=
  (turns_act hwakes id event).symm.imp_left And.left

end PixelPanel.Proofs
