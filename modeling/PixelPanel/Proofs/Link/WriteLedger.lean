import PixelPanel.Proofs.Link.Asides

/-!
# The ledger of writes

Who has written what in a session. Every send has a block, the messages of its own that the link has
recorded so far; the blocks stand one behind the other in the order in which the sends were made. A
call that waits, for the lock or in a write, has a position in its messages, and its block is all that
stands before it.
-/

namespace PixelPanel.Link

/-- The message that a note says was written. -/
def Note.written? : Note → Option Octets
  | .written message => some message
  | _ => none

/-- The messages of a send. -/
def Event.messages? : Event → Option (List Octets)
  | .send messages => some messages
  | _ => none

end PixelPanel.Link

namespace PixelPanel.Proofs
open Link

/-- What has been seen of a link since an earlier state. -/
def seenSince (start link : Link) : List Note :=
  link.trace.drop start.trace.length

/-- The sends among events, with their numbers, in the order in which they ask for the lock: a send
asks as soon as it is made. -/
def sends (time : ℕ) : List Event → List (ℕ × List Octets)
  | [] => []
  | event :: later => (event.messages?.map fun messages => (time, messages)).toList ++
    sends (time + 1) later

/-- Where a send that waits stands in its messages when it has written a block. -/
inductive Position (session : ℕ) (messages block : List Octets) : Call → Prop
  | waiting (id : ℕ) (h : block = []) :
    Position session messages block
      ⟨id, .waiting session, messages.map .write ++ [.release], .plain⟩
  | writing (id : ℕ) (message : Octets) (rest : List Octets) (h : messages = block ++ message :: rest) :
    Position session messages block
      ⟨id, .writing session session message, rest.map .write ++ [.release], .plain⟩

/-- How a send with these messages may end when it has written a block: it has come to an end, or it
has stopped at a message. -/
def Fits (messages block : List Octets) : Outcome → Prop
  | .done => block = messages
  | .failed _ => messages = [] ∨ ∃ message rest, messages = block ++ message :: rest

/-- The writes of a session, one block for each call that was made. A send that has failed and was not
cancelled keeps all later ones from writing. -/
structure Ledger (session : ℕ) (asked : List (ℕ × List Octets)) (notes : List Note)
    (calls : List Call) (block : ℕ → List Octets) : Prop where
  recorded : notes.filterMap Note.written? = asked.flatMap fun ask => block ask.1
  prefixes : ∀ ask ∈ asked, block ask.1 <+: ask.2
  finished : ∀ ask ∈ asked, ∀ outcome, .finished ask.1 outcome ∈ notes →
    Fits ask.2 (block ask.1) outcome
  pending : ∀ call ∈ calls, ∃ messages, (call.id, messages) ∈ asked ∧
    Position session messages (block call.id) call
  barred : ∀ ask ∈ asked, ∀ error, .finished ask.1 (.failed error) ∈ notes → error ≠ .cancelled →
    ∀ later ∈ asked, ask.1 < later.1 → block later.1 = []

variable {session id : ℕ} {asked : List (ℕ × List Octets)} {notes : List Note} {calls : List Call}
  {block : ℕ → List Octets} {messages : List Octets}

lemma seenSince_eq {start link : Link} (h : link.trace = start.trace ++ notes) :
    seenSince start link = notes := by
  rw [seenSince, h, List.drop_left]

/-! ### Sends -/

lemma sends_append (time : ℕ) (events later : List Event) :
    sends time (events ++ later) = sends time events ++ sends (time + events.length) later := by
  induction events generalizing time with
  | nil => rfl
  | cons event events ih =>
    rw [List.cons_append, sends, sends, ih, List.append_assoc, List.length_cons, Nat.add_assoc,
      Nat.add_comm 1]

lemma sends_of_none {event : Event} (h : event.messages? = none) (time : ℕ) :
    sends time [event] = [] := by
  rw [sends, h]
  rfl

lemma messages?_of_concernsCalls {event : Event} (h : event.concernsCalls = false) :
    event.messages? = none := by
  cases event <;> first | rfl | cases h

lemma forall_mem_concat {α : Type} {P : α → Prop} {members : List α} {last : α}
    (h : ∀ member ∈ members, P member) (hlast : P last) : ∀ member ∈ members ++ [last], P member :=
  List.forall_mem_append.mpr ⟨h, List.forall_mem_singleton.mpr hlast⟩

/-! ### Entries of the ledger -/

lemma filterMap_aside {more : List Note} (h : ∀ seen ∈ more, IsAside seen) :
    more.filterMap Note.written? = [] := by
  refine List.filterMap_eq_nil_iff.mpr fun seen hmem => ?_
  have haside := h seen hmem
  cases seen <;> first | rfl | cases haside

lemma finished_mem_append_aside {more : List Note} (h : ∀ seen ∈ more, IsAside seen)
    {outcome : Outcome} (hmem : .finished id outcome ∈ notes ++ more) :
    .finished id outcome ∈ notes := by
  refine (List.mem_append.mp hmem).resolve_right fun hmore => ?_
  exact h _ hmore

lemma finished_mem_concat {other : ℕ} {outcome result : Outcome}
    (hmem : .finished other result ∈ notes ++ [.finished id outcome]) :
    .finished other result ∈ notes ∨ other = id ∧ result = outcome := by
  refine (List.mem_append.mp hmem).imp_right fun hlast => ?_
  exact Note.finished.inj (List.mem_singleton.mp hlast)

namespace Ledger

lemma aside (h : Ledger session asked notes calls block) {more : List Note}
    (hmore : ∀ seen ∈ more, IsAside seen) : Ledger session asked (notes ++ more) calls block where
  recorded := by rw [List.filterMap_append, filterMap_aside hmore, List.append_nil, h.recorded]
  prefixes := h.prefixes
  finished ask hask outcome hmem :=
    h.finished ask hask outcome (finished_mem_append_aside hmore hmem)
  pending := h.pending
  barred ask hask error hmem := h.barred ask hask error (finished_mem_append_aside hmore hmem)

lemma sublist (h : Ledger session asked notes calls block) {fewer : List Call}
    (hsub : fewer ⊆ calls) : Ledger session asked notes fewer block :=
  { h with pending := fun call hmem => h.pending call (hsub hmem) }

lemma suspend (h : Ledger session asked notes calls block) {call : Call}
    (hask : (call.id, messages) ∈ asked) (hposition : Position session messages (block call.id) call) :
    Ledger session asked notes (calls ++ [call]) block :=
  { h with pending := forall_mem_concat h.pending ⟨messages, hask, hposition⟩ }

/-- A call has ended in a way that fits its block. -/
lemma finish (h : Ledger session asked notes calls block) {outcome : Outcome}
    (hfits : ∀ ask ∈ asked, ask.1 = id → Fits ask.2 (block id) outcome)
    (hlater : ∀ ask ∈ asked, ask.1 = id → ∀ later ∈ asked, id < later.1 → block later.1 = []) :
    Ledger session asked (notes ++ [.finished id outcome]) calls block := by
  refine { h with recorded := ?_, finished := ?_, barred := ?_ }
  · rw [List.filterMap_append, h.recorded]
    exact List.append_nil _
  · intro ask hask other hmem
    rcases finished_mem_concat hmem with hold | ⟨hid, rfl⟩
    · exact h.finished ask hask other hold
    · rw [hid]
      exact hfits ask hask hid
  · intro ask hask error hmem hne
    rcases finished_mem_concat hmem with hold | ⟨hid, -⟩
    · exact h.barred ask hask error hold hne
    · rw [hid]
      exact hlater ask hask hid

end Ledger

lemma messages_unique (hsorted : asked.Pairwise fun first second => first.1 < second.1)
    {other : List Octets} (hask : (id, messages) ∈ asked) (hother : (id, other) ∈ asked) :
    other = messages := by
  have hnodup : (asked.map Prod.fst).Nodup :=
    (List.pairwise_map.mpr hsorted).imp fun hlt => Nat.ne_of_lt hlt
  exact congrArg Prod.snd (List.inj_on_of_nodup_map hnodup hother hask rfl)

/-- A message behind the last block that is not empty stands at the end of all blocks. -/
lemma flatMap_update (hsorted : asked.Pairwise fun first second => first.1 < second.1)
    (hask : (id, messages) ∈ asked) (hlater : ∀ ask ∈ asked, id < ask.1 → block ask.1 = [])
    (message : Octets) :
    (asked.flatMap fun ask => Function.update block id (block id ++ [message]) ask.1) =
      (asked.flatMap fun ask => block ask.1) ++ [message] := by
  induction asked with
  | nil => cases hask
  | cons first rest ih =>
    obtain ⟨habove, hrest⟩ := List.pairwise_cons.mp hsorted
    rw [List.flatMap_cons, List.flatMap_cons]
    rcases List.mem_cons.mp hask with rfl | hask
    · -- nothing has been written behind this send
      have hold : (rest.flatMap fun ask => block ask.1) = [] :=
        List.flatMap_eq_nil_iff.mpr fun ask hmem =>
          hlater ask (List.mem_cons_of_mem _ hmem) (habove ask hmem)
      have hnew : (rest.flatMap fun ask =>
          Function.update block id (block id ++ [message]) ask.1) = [] := by
        refine List.flatMap_eq_nil_iff.mpr fun ask hmem => ?_
        have hlt : id < ask.1 := habove ask hmem
        rw [Function.update_of_ne hlt.ne']
        exact hlater ask (List.mem_cons_of_mem _ hmem) hlt
      rw [hold, hnew, Function.update_self, List.append_nil, List.append_nil]
    · have hlt : first.1 < id := habove _ hask
      have hmore := ih hrest hask fun ask hmem => hlater ask (List.mem_cons_of_mem _ hmem)
      rw [Function.update_of_ne hlt.ne, hmore, List.append_assoc]

namespace Ledger

/-- The call that has the lock has written its next message. -/
lemma write (h : Ledger session asked notes calls block)
    (hsorted : asked.Pairwise fun first second => first.1 < second.1)
    (hask : (id, messages) ∈ asked) {message : Octets} {rest : List Octets}
    (hmessages : messages = block id ++ message :: rest)
    (hlater : ∀ ask ∈ asked, id < ask.1 → block ask.1 = [])
    (hcalls : ∀ call ∈ calls, call.id ≠ id) (hover : ∀ outcome, .finished id outcome ∉ notes)
    (hbarred : ∀ ask ∈ asked, ∀ error, .finished ask.1 (.failed error) ∈ notes →
      error ≠ .cancelled → id ≤ ask.1) :
    Ledger session asked (notes ++ [.written message]) calls
      (Function.update block id (block id ++ [message])) := by
  have hmem : ∀ {ask : ℕ × List Octets} {outcome : Outcome},
      .finished ask.1 outcome ∈ notes ++ [.written message] →
      .finished ask.1 outcome ∈ notes ∧ ask.1 ≠ id := by
    intro ask outcome hmem
    have hold : .finished ask.1 outcome ∈ notes := by simpa using hmem
    refine ⟨hold, fun heq => ?_⟩
    rw [heq] at hold
    exact hover outcome hold
  refine ⟨?_, ?_, ?_, ?_, ?_⟩
  · rw [flatMap_update hsorted hask hlater, List.filterMap_append, h.recorded]
    rfl
  · intro ask hmem
    by_cases heq : ask.1 = id
    · have hmessages' : ask.2 = messages := messages_unique hsorted hask (heq ▸ hmem)
      rw [heq, Function.update_self, hmessages']
      exact ⟨rest, by rw [hmessages, List.append_assoc]; rfl⟩
    · rw [Function.update_of_ne heq]
      exact h.prefixes ask hmem
  · intro ask hask outcome hfinished
    obtain ⟨hold, hne⟩ := hmem hfinished
    rw [Function.update_of_ne hne]
    exact h.finished ask hask outcome hold
  · intro call hcall
    obtain ⟨other, hother, hposition⟩ := h.pending call hcall
    refine ⟨other, hother, ?_⟩
    rw [Function.update_of_ne (hcalls call hcall)]
    exact hposition
  · intro ask hask error hfailed hne later hlast hlt
    obtain ⟨hold, -⟩ := hmem hfailed
    have hle := hbarred ask hask error hold hne
    rw [Function.update_of_ne (by omega)]
    exact h.barred ask hask error hold hne later hlast hlt

/-- A new call has written nothing yet. -/
lemma ask (h : Ledger session asked notes calls block) (hnew : ∀ ask ∈ asked, ask.1 < id)
    (messages : List Octets) (hover : ∀ outcome, .finished id outcome ∉ notes) :
    Ledger session (asked ++ [(id, messages)]) notes calls (Function.update block id []) := by
  have hold : ∀ ask ∈ asked, Function.update block id [] ask.1 = block ask.1 := by
    intro ask hmem
    have hlt := hnew ask hmem
    rw [Function.update_of_ne hlt.ne]
  refine ⟨?_, ?_, ?_, ?_, ?_⟩
  · rw [List.flatMap_append, h.recorded, List.flatMap_singleton, Function.update_self,
      List.append_nil]
    exact List.flatMap_congr fun ask hmem => (hold ask hmem).symm
  · refine forall_mem_concat (fun ask hmem => ?_) ?_
    · rw [hold ask hmem]
      exact h.prefixes ask hmem
    · rw [Function.update_self]
      exact List.nil_prefix
  · refine forall_mem_concat (fun ask hmem outcome hfinished => ?_) fun outcome hfinished =>
      (hover outcome hfinished).elim
    rw [hold ask hmem]
    exact h.finished ask hmem outcome hfinished
  · intro call hcall
    obtain ⟨other, hother, hposition⟩ := h.pending call hcall
    refine ⟨other, List.mem_append_left _ hother, ?_⟩
    have hsame := hold _ hother
    dsimp only at hsame
    rwa [hsame]
  · refine forall_mem_concat (fun ask hmem error hfailed hne => ?_) fun error hfailed =>
      (hover _ hfailed).elim
    refine forall_mem_concat (fun later hlater hlt => ?_) fun _ => Function.update_self ..
    rw [hold later hlater]
    exact h.barred ask hmem error hfailed hne later hlater hlt

end Ledger

end PixelPanel.Proofs
