import PixelPanel.Proofs.Link.Traffic

/-!
# One holder for every lock

Every session has a lock of its own, and calls that wait for it outlive the session. Whatever happens
to the sessions, a lock has one holder at most: the call that runs with it, a call that waits in a
write, or a call that has been handed the lock and has not had its turn yet. So no call has two turns
to come, and while writes are held back none of those that wait in a write has one.
-/

namespace PixelPanel.Link

/-- The call that a wake lets go on. -/
def Wake.caller? : Wake → Option ℕ
  | .call id => some id
  | _ => none

/-- The calls whose turn comes, in this order. -/
def callers (link : Link) : List ℕ :=
  link.wakes.filterMap Wake.caller?

/-- Whether actions write only between an acquisition and the release that follows. With `locked` the
lock has been acquired before. -/
def Action.bracketed : Bool → List Action → Bool
  | _, [] => true
  | _, .acquire :: rest => bracketed true rest
  | locked, .write _ :: rest => locked && bracketed locked rest
  | _, .release :: rest => bracketed false rest

end PixelPanel.Link

namespace PixelPanel.Proofs
open Link

/-- Whether a call has a lock or is about to go on with it. -/
def Armed (link : Link) (call : Call) (lock : ℕ) : Prop :=
  (call.stage = .waiting lock ∧ call.id ∈ link.callers) ∨
    ∃ socket message, call.stage = .writing lock socket message

/-- The locks of a link at a moment. Calls are numbered below `next`; `runner` is the call that runs,
and `held` is its lock. -/
structure Tokens (next : ℕ) (runner held : Option ℕ) (link : Link) : Prop where
  ids : (link.calls.map Call.id).Nodup
  lt : ∀ call ∈ link.calls, call.id < next
  callers : link.callers.Nodup
  away : ∀ id, runner = some id → (∀ call ∈ link.calls, call.id ≠ id) ∧ id ∉ link.callers
  one : ∀ lock, ∀ call ∈ link.calls, ∀ other ∈ link.calls, Armed link call lock →
    Armed link other lock → call = other
  alone : ∀ lock, held = some lock → ∀ call ∈ link.calls, ¬Armed link call lock
  still : link.writesHeld → ∀ call ∈ link.calls, call.isWriting → call.id ∉ link.callers
  bracketed : ∀ call ∈ link.calls, Action.bracketed call.socket?.isNone call.actions

variable {next id lock : ℕ} {runner held : Option ℕ} {link link' : Link} {call : Call}

/-! ### Calls that have a turn to come -/

lemma callers_eq_callTurns (link : Link) :
    link.callers = (callTurns link).filterMap Wake.caller? := by
  rw [callTurns, List.filterMap_filter, callers]
  refine List.filterMap_congr fun wake _ => ?_
  cases wake <;> rfl

lemma callers_eq_nil (h : link.wakes = []) : link.callers = [] := by
  rw [callers, h]
  rfl

lemma callers_aside (h : Aside link link') : link'.callers = link.callers := by
  rw [callers_eq_callTurns, callers_eq_callTurns, h.turns]

lemma callers_congr (h : link'.wakes = link.wakes) : link'.callers = link.callers := by
  rw [callers, callers, h]

lemma callers_conclude (ending : Ending) (outcome : Outcome) :
    (link.conclude id ending outcome).callers = link.callers := by
  have hstop : link.stopTasks.callers = link.callers := by
    cases howned : link.owned with
    | none => rw [stopTasks_of_none howned]
    | some session =>
      rw [stopTasks_of_some howned, callers, callers, List.filterMap_filter]
      refine List.filterMap_congr fun wake _ => ?_
      cases wake <;> simp [Wake.caller?, Wake.isWorkerOf]
  have hleave : ∀ outcome, (link.leave id outcome).callers = link.callers := by
    intro outcome
    unfold leave
    split
    · exact callers_congr closeSocket_wakes
    · rw [← hstop, callers, callers, wake, List.filterMap_append]
      exact List.append_nil _
  unfold conclude
  split
  · rfl
  · exact hleave _
  · exact hleave _

lemma calls_conclude (ending : Ending) (outcome : Outcome) :
    (link.conclude id ending outcome).calls = link.calls := by
  have hleave : ∀ outcome, (link.leave id outcome).calls = link.calls := by
    intro outcome
    unfold leave
    split
    · exact closeSocket_calls
    · exact stopTasks_calls
  unfold conclude
  split
  · rfl
  · exact hleave _
  · exact hleave _

lemma writesHeld_conclude (ending : Ending) (outcome : Outcome) :
    (link.conclude id ending outcome).writesHeld = link.writesHeld := by
  have hclose : ∀ link : Link, link.closeSocket.writesHeld = link.writesHeld := by
    intro link
    unfold closeSocket
    split <;> rfl
  have hleave : ∀ outcome, (link.leave id outcome).writesHeld = link.writesHeld := by
    intro outcome
    unfold leave
    split
    · exact hclose link
    · change link.stopTasks.writesHeld = _
      unfold stopTasks
      split <;> rfl
  unfold conclude
  split
  · rfl
  · exact hleave _
  · exact hleave _

lemma Armed.congr (h : Armed link call lock) (hcallers : ∀ id ∈ link.callers, id ∈ link'.callers) :
    Armed link' call lock :=
  h.imp_left fun ⟨hstage, hturn⟩ => ⟨hstage, hcallers _ hturn⟩

/-- A call that concerns no lock does not have it. -/
lemma Armed.concerns (h : Armed link call lock) : call.concerns lock := by
  rcases h with ⟨hstage, -⟩ | ⟨socket, message, hstage⟩ <;> simp [Call.concerns, hstage]

namespace Tokens

lemma mono (h : Tokens next runner held link) {later : ℕ} (hle : next ≤ later) :
    Tokens later runner held link where
  __ := h
  lt call hmem := (h.lt call hmem).trans_le hle

/-- What leaves the calls and their turns alone leaves the locks alone. -/
lemma congr (h : Tokens next runner held link) (hcalls : link'.calls = link.calls)
    (hcallers : link'.callers = link.callers)
    (hheld : link'.writesHeld → link.writesHeld ∨ link.callers = []) :
    Tokens next runner held link' where
  ids := hcalls ▸ h.ids
  lt := hcalls ▸ h.lt
  callers := hcallers ▸ h.callers
  away id hrunner := by
    rw [hcalls, hcallers]
    exact h.away id hrunner
  one lock call hcall other hother harmed harmed' := by
    rw [hcalls] at hcall hother
    exact h.one lock call hcall other hother (harmed.congr (by simp [hcallers]))
      (harmed'.congr (by simp [hcallers]))
  alone lock hlock call hcall harmed := by
    rw [hcalls] at hcall
    exact h.alone lock hlock call hcall (harmed.congr (by simp [hcallers]))
  still hstill call hcall hwriting := by
    rw [hcalls] at hcall
    rw [hcallers]
    rcases hheld hstill with hbefore | hnone
    · exact h.still hbefore call hcall hwriting
    · rw [hnone]
      exact List.not_mem_nil
  bracketed := hcalls ▸ h.bracketed

/-- The call that runs ends or fails; what it has is gone. -/
lemma conclude (h : Tokens next runner held link) (ending : Ending) (outcome : Outcome) :
    Tokens next none none (link.conclude id ending outcome) where
  __ := h.congr (calls_conclude ending outcome) (callers_conclude ending outcome)
    fun hheld => .inl ((writesHeld_conclude ending outcome).symm.trans hheld)
  away _ hrunner := by cases hrunner
  alone _ hlock := by cases hlock

/-- A number belongs to one call. -/
lemma eq_of_id (h : Tokens next runner held link) {other : Call} (hcall : call ∈ link.calls)
    (hother : other ∈ link.calls) (hid : call.id = other.id) : call = other :=
  List.inj_on_of_nodup_map h.ids hcall hother hid

/-- The call that runs begins to wait; if it waits in a write, it keeps its lock. -/
lemma suspend (h : Tokens next (some call.id) held link) (hlt : call.id < next)
    (harmed : ∀ lock, Armed (link.suspend call) call lock → held = some lock)
    (hbracketed : Action.bracketed call.socket?.isNone call.actions) :
    Tokens next none none (link.suspend call) where
  ids := by
    rw [Link.suspend, List.map_append, List.map_singleton]
    refine List.nodup_append.mpr ⟨h.ids, List.pairwise_singleton .., ?_⟩
    rintro id hid _ hlast rfl
    obtain ⟨other, hother, rfl⟩ := List.mem_map.mp hid
    exact (h.away _ rfl).1 other hother (List.mem_singleton.mp hlast)
  lt := forall_mem_concat h.lt hlt
  callers := h.callers
  away _ hrunner := by cases hrunner
  one lock first hfirst second hsecond harmed' harmed'' := by
    -- nobody else can have the lock of the call that begins to wait
    have hothers : ∀ other ∈ link.calls, Armed link other lock →
        ¬Armed (link.suspend call) call lock :=
      fun other hother hhas hmine => h.alone lock (harmed lock hmine) other hother hhas
    rcases List.mem_append.mp hfirst with hold | hnew <;>
      rcases List.mem_append.mp hsecond with hold' | hnew'
    · exact h.one lock first hold second hold' harmed' harmed''
    · rw [List.mem_singleton.mp hnew'] at harmed''
      exact (hothers first hold harmed' harmed'').elim
    · rw [List.mem_singleton.mp hnew] at harmed'
      exact (hothers second hold' harmed'' harmed').elim
    · rw [List.mem_singleton.mp hnew, List.mem_singleton.mp hnew']
  alone _ hlock := by cases hlock
  still hheld := forall_mem_concat (h.still hheld) fun _ => (h.away _ rfl).2
  bracketed := forall_mem_concat h.bracketed hbracketed

/-- A lock that no call concerns can be acquired. -/
lemma acquire (h : Tokens next runner held link) {session : ℕ} (hfree : ¬link.isBusy session) :
    Tokens next runner (some session) link where
  __ := h
  alone lock hlock call hmem harmed := by
    obtain rfl := Option.some.inj hlock
    exact hfree (List.any_eq_true.mpr ⟨call, hmem, harmed.concerns⟩)

/-- The lock of the call that runs goes to the first that waits for it. -/
lemma handOver (h : Tokens next runner (some lock) link) :
    Tokens next runner none (link.handOver lock) := by
  unfold Link.handOver
  split
  · exact { h with alone := fun _ hlock => by cases hlock }
  · rename_i call hfind
    have hmem := List.mem_of_find?_eq_some hfind
    have hstage : call.stage = .waiting lock := by simpa using List.find?_some hfind
    have hturn : call.id ∉ link.callers :=
      fun hturn => h.alone lock rfl call hmem (.inl ⟨hstage, hturn⟩)
    have hcallers : (link.wake [.call call.id]).callers = link.callers ++ [call.id] := by
      rw [Link.callers, wake, List.filterMap_append]
      rfl
    -- the only call that gets a lock is the one whose turn is added
    have harmed : ∀ other ∈ link.calls, ∀ other_lock,
        Armed (link.wake [.call call.id]) other other_lock →
          Armed link other other_lock ∨ other = call ∧ other_lock = lock := by
      rintro other hother other_lock (⟨hwaiting, hin⟩ | hwriting)
      · rw [hcallers] at hin
        rcases List.mem_append.mp hin with hold | hnew
        · exact .inl (.inl ⟨hwaiting, hold⟩)
        · obtain rfl := h.eq_of_id hother hmem (List.mem_singleton.mp hnew)
          exact .inr ⟨rfl, Stage.waiting.inj (hwaiting.symm.trans hstage)⟩
      · exact .inl (.inr hwriting)
    refine { h with callers := ?_, away := ?_, one := ?_, alone := ?_, still := ?_ }
    · rw [hcallers]
      refine List.nodup_append.mpr ⟨h.callers, List.pairwise_singleton .., ?_⟩
      rintro id hid _ hlast rfl
      exact hturn (List.mem_singleton.mp hlast ▸ hid)
    · intro id hrunner
      obtain ⟨hcalls, hout⟩ := h.away id hrunner
      refine ⟨hcalls, ?_⟩
      rw [hcallers, List.mem_append, List.mem_singleton]
      rintro (hin | rfl)
      · exact hout hin
      · exact hcalls call hmem rfl
    · intro lock' first hfirst second hsecond hone htwo
      rcases harmed first hfirst lock' hone with hbefore | ⟨hfirst', hlock⟩ <;>
        rcases harmed second hsecond lock' htwo with hbefore' | ⟨hsecond', hlock'⟩
      · exact h.one lock' first hfirst second hsecond hbefore hbefore'
      · exact (h.alone lock' (congrArg some hlock'.symm) first hfirst hbefore).elim
      · exact (h.alone lock' (congrArg some hlock.symm) second hsecond hbefore').elim
      · rw [hfirst', hsecond']
    · exact fun _ hlock => by cases hlock
    · intro hheld other hother hwriting
      rw [hcallers, List.mem_append, List.mem_singleton]
      rintro (hin | hid)
      · exact h.still hheld other hother hwriting hin
      · obtain rfl := h.eq_of_id hother hmem hid
        simp [Call.isWriting, hstage] at hwriting

/-- A call that has waited runs again, with its lock or without one. -/
lemma start (h : Tokens next none none link) (hmem : call ∈ link.calls)
    (hcalls : link'.calls = (link.removeCall call.id).calls)
    (hcallers : link'.callers.Sublist link.callers) (hturn : call.id ∉ link'.callers)
    (hheld : link'.writesHeld = link.writesHeld)
    (harmed : ∀ lock, held = some lock → Armed link call lock) :
    Tokens next (some call.id) held link' := by
  have hsub : ∀ other ∈ link'.calls, other ∈ link.calls ∧ other.id ≠ call.id := by
    intro other hother
    rw [hcalls] at hother
    exact ⟨List.mem_of_mem_filter hother, by simpa using (List.mem_filter.mp hother).2⟩
  have hback : ∀ {other lock}, Armed link' other lock → Armed link other lock :=
    fun harmed => harmed.congr fun _ hin => hcallers.subset hin
  refine ⟨?_, fun other hother => h.lt other (hsub other hother).1, hcallers.nodup h.callers, ?_, ?_,
    ?_, ?_, fun other hother => h.bracketed other (hsub other hother).1⟩
  · rw [hcalls]
    exact (List.filter_sublist.map _).nodup h.ids
  · rintro _ ⟨⟩
    exact ⟨fun other hother => (hsub other hother).2, hturn⟩
  · exact fun lock first hfirst second hsecond hone htwo => h.one lock first (hsub first hfirst).1
      second (hsub second hsecond).1 (hback hone) (hback htwo)
  · intro lock hlock other hother hother_armed
    obtain ⟨hold, hne⟩ := hsub other hother
    exact hne (congrArg Call.id (h.one lock other hold call hmem (hback hother_armed)
      (harmed lock hlock)))
  · exact fun hstill other hother hwriting hin => h.still (hheld ▸ hstill) other
      (hsub other hother).1 hwriting (hcallers.subset hin)

end Tokens

/-! ### Calls that run -/

lemma Tokens.abandon (h : Tokens next runner held link) (ending : Ending) (error : CallError) :
    Tokens next none none (link.abandon id ending held error) := by
  cases held with
  | none => exact h.conclude ..
  | some lock => exact h.handOver.conclude ..

lemma Tokens.failWrite (h : Tokens next runner held link) (ending : Ending) (error : SystemError) :
    Tokens next none none (link.failWrite id ending held error) := by
  have hretire : Tokens next runner held (link.retire ("write failed: " ++ error.message)) := by
    refine h.congr (calls_retire _) (callers_congr (wakes_retire _)) fun hheld => .inl ?_
    unfold retire at hheld
    split at hheld <;> exact hheld
  exact hretire.abandon ..

lemma tokens_perform (ending : Ending) (held : Option ℕ) (actions : List Action) (link : Link)
    (h : Tokens next (some id) held link) (hlt : id < next)
    (hbracketed : Action.bracketed held.isSome actions) :
    Tokens next none none (perform id ending held actions link) := by
  induction actions generalizing held link with
  | nil =>
    rw [perform]
    exact h.conclude ..
  | cons action rest ih =>
    cases action with
    | acquire =>
      rw [perform]
      split
      · rename_i session _ _
        split
        · refine @Tokens.suspend _ _ _ ⟨id, .waiting session, rest, ending⟩ h hlt ?_ hbracketed
          rintro lock (⟨-, hin⟩ | ⟨socket, message, hstage⟩)
          · exact ((h.away id rfl).2 hin).elim
          · cases hstage
        · rename_i hfree
          exact ih (some session) link (h.acquire hfree) hbracketed
      · exact h.abandon ..
    | write message =>
      rw [Action.bracketed, Bool.and_eq_true] at hbracketed
      obtain ⟨hlocked, hrest⟩ := hbracketed
      rw [perform]
      split
      · rename_i socket _ _
        have hlog : Tokens next (some id) held
            (link.log .debug ("Sending: " ++ Hex.encode message)) := { h with }
        dsimp only
        split
        · refine @Tokens.suspend _ _ _ ⟨id, .writing (held.getD socket) socket message, rest, ending⟩
            hlog hlt ?_ (by rwa [hlocked] at hrest)
          rintro lock (⟨hstage, -⟩ | ⟨_, _, hstage⟩)
          · cases hstage
          · obtain ⟨mine, rfl⟩ := Option.isSome_iff_exists.mp hlocked
            exact congrArg some (Stage.writing.inj hstage).1
        · rcases tryWrite_cases (link.log .debug ("Sending: " ++ Hex.encode message)) socket message
            with ⟨fault, htry⟩ | ⟨error, htry⟩
          · rw [htry]
            exact ih held _ { hlog with } hrest
          · rw [htry]
            exact hlog.failWrite ..
      · exact h.abandon ..
    | release =>
      cases held with
      | none =>
        rw [perform]
        exact ih none link h hbracketed
      | some lock =>
        rw [perform]
        exact ih none _ h.handOver hbracketed

/-! ### Turns -/

/-- A turn that is not that of a call. -/
lemma Tokens.aside_turn (h : Tokens next none none link) {wake : Wake} {rest : List Wake}
    (hwakes : link.wakes = wake :: rest) (hwake : wake.caller? = none) :
    Tokens next none none ({ link with wakes := rest }.resume wake) := by
  have hcallers : link.callers = Link.callers { link with wakes := rest } := by
    rw [Link.callers, hwakes, List.filterMap_cons_none hwake]
    rfl
  have hpop : Tokens next none none { link with wakes := rest } :=
    h.congr rfl hcallers.symm .inl
  cases hworker : workerOf? wake with
  | some worker =>
    have hworks := @resume_works { link with wakes := rest } _ _ hworker
    have haside := aside_of_works hworks
    refine hpop.congr haside.calls (callers_aside haside) fun hheld => .inl ?_
    obtain ⟨inbox, notes, idle, wakes, blocked, change, -, -, -, heq⟩ := hworks
    rwa [heq] at hheld
  | none =>
    cases wake with
    | leaving id turns outcome =>
      cases turns with
      | zero =>
        refine hpop.congr closeSocket_calls (callers_congr closeSocket_wakes) fun hheld => .inl ?_
        change (closeSocket _).writesHeld at hheld
        unfold closeSocket at hheld
        split at hheld <;> exact hheld
      | succ turns =>
        refine hpop.congr rfl ?_ .inl
        change List.filterMap Wake.caller? (rest ++ [_]) = List.filterMap Wake.caller? rest
        rw [List.filterMap_append]
        exact List.append_nil _
    | call id => cases hwake
    | _ => cases hworker

/-- The turn of a call; it has its lock. -/
lemma Tokens.call_turn (h : Tokens next none none link) {rest : List Wake}
    (hwakes : link.wakes = .call id :: rest) :
    Tokens next none none ({ link with wakes := rest }.resume (.call id)) := by
  have hcallers : link.callers = id :: Link.callers { link with wakes := rest } := by
    rw [Link.callers, hwakes]
    rfl
  have hsub : (Link.callers { link with wakes := rest }).Sublist link.callers := by
    rw [hcallers]
    exact List.sublist_cons_self ..
  have hturn : id ∉ Link.callers { link with wakes := rest } := by
    have hnodup := h.callers
    rw [hcallers] at hnodup
    exact (List.nodup_cons.mp hnodup).1
  have hpop : Tokens next none none { link with wakes := rest } :=
    { h with
      callers := hsub.nodup h.callers
      away := fun _ hrunner => by cases hrunner
      one := fun lock call hcall other hother harmed harmed' =>
        h.one lock call hcall other hother (harmed.congr hsub.subset) (harmed'.congr hsub.subset)
      alone := fun _ hlock => by cases hlock
      still := fun hheld call hmem hwriting hin => h.still hheld call hmem hwriting (hsub.subset hin) }
  rw [resume, resumeCall]
  split
  · exact hpop
  · rename_i call hfind
    obtain ⟨hmem, rfl⟩ := @mem_of_find?_id { link with wakes := rest } _ _ hfind
    have hbracketed := h.bracketed call hmem
    have hstart := fun lock harmed => @Tokens.start _ (some lock) _
      (removeCall { link with wakes := rest } call.id) _ h hmem rfl hsub hturn rfl fun other hother =>
        Option.some.inj hother ▸ harmed
    split
    · exact hpop
    · rename_i lock hstage
      rw [Call.socket?, hstage] at hbracketed
      refine tokens_perform _ _ _ _ (hstart lock (.inl ⟨hstage, ?_⟩)) (h.lt call hmem) hbracketed
      rw [hcallers]
      exact List.mem_cons_self
    · rename_i lock socket message hstage
      rw [Call.socket?, hstage] at hbracketed
      have hrunning := hstart lock (.inr ⟨socket, message, hstage⟩)
      rcases tryWrite_cases (removeCall { link with wakes := rest } call.id) socket message
        with ⟨fault, htry⟩ | ⟨error, htry⟩
      · rw [htry]
        exact tokens_perform _ _ _ _ { hrunning with } (h.lt call hmem) hbracketed
      · rw [htry]
        exact hrunning.failWrite ..

lemma Tokens.turn (h : Tokens next none none link) {wake : Wake} {rest : List Wake}
    (hwakes : link.wakes = wake :: rest) :
    Tokens next none none ({ link with wakes := rest }.resume wake) := by
  cases hcaller : wake.caller? with
  | none => exact h.aside_turn hwakes hcaller
  | some id =>
    obtain rfl : wake = .call id := by
      cases wake <;> simp_all [Wake.caller?]
    exact h.call_turn hwakes

/-! ### Events -/

lemma Tokens.aside (h : Tokens next runner held link) (hwakes : link.wakes = [])
    (haside : Aside link link') : Tokens next runner held link' :=
  h.congr haside.calls (callers_aside haside) fun _ => .inr (callers_eq_nil hwakes)

lemma Tokens.joined (h : Tokens next runner held link) (socket : ℕ) :
    Tokens next runner held (link.joined socket) :=
  h.congr rfl rfl .inl

lemma Tokens.finish (h : Tokens next runner held link) (id : ℕ) (outcome : Outcome) :
    Tokens next none none (link.finish id outcome) :=
  h.conclude .plain outcome

lemma IsNew.tokens (h : IsNew link) : Tokens link.clock none none link := by
  have hcallers := callers_eq_nil h.wakes
  constructor <;> simp [h.calls, hcallers]

end PixelPanel.Proofs
