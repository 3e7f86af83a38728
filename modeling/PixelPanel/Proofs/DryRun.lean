import PixelPanel.CommandLine.Run
import PixelPanel.Proofs.HexText
import PixelPanel.Proofs.Link.Traffic

/-!
# What a dry run promises

A dry run builds the packets of a request and shows them. The same command line without it builds them
in the same way before it looks for the device, so it fails where the dry run does, and otherwise it
writes what the dry run shows: one batch, with nothing before or after it.
-/

namespace PixelPanel.CommandLine

/-- The same invocation as a dry run. -/
def Invocation.asDry (invocation : Invocation) : Invocation :=
  { invocation with options := { invocation.options with dryRun := true } }

/-- The packets that are shown: the lines that hold nothing but octets. -/
def shownPackets (lines : List String) : List Octets :=
  lines.filterMap fun line => Hex.decode line.toList

/-- Whether the outside lets so many writes succeed. -/
def Outside.allows (outside : Outside) (count : ℕ) : Prop :=
  ∀ error after, outside.writeFault = some (error, after) → count ≤ after

/-- What a batch leaves in the trace. -/
def batchNotes (messages : List Octets) : List Link.Note :=
  messages.flatMap fun message =>
    [.log ⟨.debug, .link, "Sending: " ++ Hex.encode message⟩, .written message]

/-- What is left of the writes that succeed when some of them are done. -/
def spend (count : ℕ) (fault : Option (SystemError × ℕ)) : Option (SystemError × ℕ) :=
  fault.map fun (error, after) => (error, after - count)

end PixelPanel.CommandLine

namespace PixelPanel.Proofs
open CommandLine Envelope Link

/-- Two command lines mean the same, but for the first one being a dry run. -/
structure DiffersByDryRun (surroundings : Surroundings) (dryWords words : List String) : Prop where
  meaning : Invocation.ofWords surroundings.storage surroundings.environment dryWords =
    (Invocation.ofWords surroundings.storage surroundings.environment words).map Invocation.asDry
  plain : ∀ invocation, Invocation.ofWords surroundings.storage surroundings.environment words =
    .ok invocation → invocation.options.dryRun = false

variable {link : Link} {packets : List Octets} {surroundings : Surroundings}

/-! ### What is shown can be read back -/

/-- A line with a sign in front that is neither a digit nor a blank holds no octets. -/
lemma decode_eq_none {c : Char} {rest : List Char} (hblank : Hex.isBlank c = false)
    (hvalue : Hex.value? c = none) : Hex.decode (c :: rest) = none := by
  cases rest <;> simp [Hex.decode, hblank, hvalue]

lemma shownPackets_append (lines more : List String) :
    shownPackets (lines ++ more) = shownPackets lines ++ shownPackets more :=
  List.filterMap_append

/-- A header and the digits below it show one packet. -/
lemma shownPackets_packet {header : String} (h : Hex.decode header.toList = none) (packet : Octets) :
    shownPackets [header, Hex.encodeUpper packet] = [packet] := by
  have hdigits : shownPackets [Hex.encodeUpper packet] = [packet] :=
    List.filterMap_cons_some (decode_encodeUpper packet)
  exact (List.filterMap_cons_none (f := fun line : String => Hex.decode line.toList) h).trans hdigits

lemma shownPackets_packetLines (packets : List Octets) :
    shownPackets (packetLines packets) = packets := by
  -- the packets are numbered from any number on
  suffices hfrom : ∀ number : ℕ → ℕ, shownPackets ((packets.mapIdx fun index packet =>
      [s!"--- Packet {number index} ({packet.length} bytes) ---",
        Hex.encodeUpper packet]).flatten) = packets from hfrom (· + 1)
  induction packets with
  | nil => exact fun _ => rfl
  | cons packet rest ih =>
    intro number
    have hheader : Hex.decode
        (s!"--- Packet {number 0} ({packet.length} bytes) ---").toList = none := by
      simp only [String.toList_append]
      exact decode_eq_none (by decide) (by decide)
    rw [List.mapIdx_cons, List.flatten_cons, shownPackets_append, ih fun index => number (index + 1),
      shownPackets_packet hheader]
    rfl

/-- The lines that are printed before the packets are known show none. -/
lemma shownPackets_prepare (surroundings : Surroundings) (request : Request) :
    shownPackets (request.prepare surroundings).1 = [] := by
  cases request with
  | animation path duration =>
    rw [Request.prepare]
    split
    · rfl
    · rename_i first rest _
      have hloaded : Hex.decode
          (s!"Loaded {(first :: rest).length} frame(s) from {path.name}").toList = none := by
        simp only [String.toList_append]
        exact decode_eq_none (by decide) (by decide)
      exact List.filterMap_cons_none hloaded
  | picture path =>
    rw [Request.prepare]
    split <;> rfl
  | _ => rfl

/-! ### One batch -/

lemma written_batchNotes (messages : List Octets) :
    (batchNotes messages).filterMap Note.written? = messages := by
  induction messages with
  | nil => rfl
  | cons message rest ih =>
    rw [batchNotes, List.flatMap_cons, List.filterMap_append]
    exact congrArg (message :: ·) ih

/-- A message is written where nothing disturbs it. -/
lemma perform_write {socket id : ℕ} (hphase : link.phase = .active)
    (hcurrent : link.current = some socket) (hopen : link.isOpen socket)
    (hheld : link.writesHeld = false) (message : Octets)
    (hallowed : ∀ error after, link.writeFault = some (error, after) → 0 < after)
    (rest : List Action) :
    perform id .plain (some socket) (.write message :: rest) link =
      perform id .plain (some socket) rest { link with
        writeFault := spend 1 link.writeFault
        trace := link.trace ++ batchNotes [message] } := by
  have htry : (link.log .debug ("Sending: " ++ Hex.encode message)).tryWrite socket message =
      ({ link with
        writeFault := spend 1 link.writeFault
        trace := link.trace ++ batchNotes [message] }, none) := by
    have hopen' : (link.log .debug ("Sending: " ++ Hex.encode message)).isOpen socket := hopen
    rw [tryWrite, hopen']
    rcases hfault : link.writeFault with _ | ⟨error, _ | after⟩
    · simp [log, note, hfault, spend, batchNotes]
    · cases hallowed error 0 hfault
    · simp [log, note, hfault, spend, batchNotes]
  have hheld' : (link.log .debug ("Sending: " ++ Hex.encode message)).writesHeld = false := hheld
  rw [perform]
  simp only [hphase, hcurrent, hheld', htry]
  rfl

/-- A call that nothing disturbs writes its messages one after the other. -/
lemma perform_batch {socket id : ℕ} (hphase : link.phase = .active)
    (hcurrent : link.current = some socket) (hopen : link.isOpen socket)
    (hheld : link.writesHeld = false) (hcalls : link.calls = []) (messages : List Octets)
    (hallowed : ∀ error after, link.writeFault = some (error, after) → messages.length ≤ after) :
    perform id .plain (some socket) (messages.map .write ++ [.release]) link =
      { link with
        writeFault := spend messages.length link.writeFault
        trace := link.trace ++ batchNotes messages ++ [.finished id .done] } := by
  induction messages generalizing link with
  | nil =>
    have hspend : spend 0 link.writeFault = link.writeFault := by
      rw [spend]
      cases link.writeFault <;> rfl
    rw [List.map_nil, List.nil_append, perform, perform, handOver, hcalls, List.length_nil, hspend]
    simp [conclude, finish, note, batchNotes, hcalls]
  | cons message rest ih =>
    have hspend : spend rest.length (spend 1 link.writeFault) =
        spend (message :: rest).length link.writeFault := by
      simp only [spend, Option.map_map, Function.comp_def, Nat.sub_sub, Nat.add_comm 1,
        List.length_cons]
    have hleft : ∀ error after, spend 1 link.writeFault = some (error, after) →
        rest.length ≤ after := by
      intro error after hfault
      obtain ⟨⟨error', before⟩, hbefore, heq⟩ := Option.map_eq_some_iff.mp hfault
      obtain ⟨rfl, rfl⟩ := Prod.mk.inj heq
      have hle := hallowed error' before hbefore
      rw [List.length_cons] at hle
      omega
    rw [List.map_cons, List.cons_append, perform_write hphase hcurrent hopen hheld message
      fun error after hfault => (Nat.succ_pos _).trans_le (hallowed error after hfault)]
    have hrest := @ih { link with
      writeFault := spend 1 link.writeFault
      trace := link.trace ++ batchNotes [message] } hphase hcurrent hopen hheld hcalls hleft
    rw [hrest]
    dsimp only
    rw [hspend, List.append_assoc link.trace]
    rfl

/-! ### A conversation -/

/-- The link of a conversation when the device has accepted it. -/
def joined (address : String) (channel : ℤ) (octets : Octets) (fault : Option (SystemError × ℕ)) :
    Link :=
  { address, channel
    listeners := [.inbox]
    phase := .active
    sessions := [{ isOpen := true, reading := true, idle := 1 }]
    current := some 0
    owned := some 0
    writeFault := fault
    clock := 1
    trace :=
      [.log ⟨.info, .link, s!"Connecting to {address} on RFCOMM channel {channel}"⟩,
        .log ⟨.debug, .link, s!"bdaddr (sockaddr_rc order): {Hex.encode octets}"⟩,
        .opened (Address.text octets) channel, .attached 0,
        .log ⟨.info, .link, s!"Connected to {address}"⟩, .finished 0 .done] }

lemma step_connect_accepted {address : String} {octets : Octets}
    (h : Address.ofText? address.toList = some octets) (channel : ℤ)
    (fault : Option (SystemError × ℕ)) :
    Panel.step { address, channel, listeners := [.inbox], writeFault := fault }
      (.link (.connect .accepted)) = joined address channel octets fault := by
  have hact : (Panel.resetInbox
      { address, channel, listeners := [.inbox], writeFault := fault }).act 0 (.connect .accepted) =
      { joined address channel octets fault with clock := 0 } := by
    simp [Panel.resetInbox, act, connect, log, note, h, answerAttempt, attach, perform, conclude,
      finish, modifySession, joined, Inbox.reset, Assembler.reset]
  have hstep := step_of_wakes (Event.connect .accepted) (congrArg Link.wakes hact)
  exact hstep.trans (congrArg (fun next : Link => { next with clock := 1 }) hact)

/-- What is done at once and does not fail. -/
lemma attempt_of_done {event : Panel.Event} (hcalls : (Panel.step link event).calls = [])
    (hdone : ∀ id error, .finished id (.failed error) ∉ (Panel.step link event).trace) :
    Conversation.attempt link event = ⟨Panel.step link event, none⟩ := by
  have herror : Conversation.errorOf (Panel.step link event) link.clock = none := by
    refine List.findSome?_eq_none_iff.mpr fun seen hmem => ?_
    split
    · exact (hdone _ _ hmem).elim
    · rfl
  rw [Conversation.attempt]
  simp only [hcalls, List.any_nil, Bool.false_eq_true, if_false, herror]

lemma not_failed_mem_batchNotes {messages : List Octets} (id : ℕ) (error : CallError) :
    .finished id (.failed error) ∉ batchNotes messages := by
  intro hmem
  obtain ⟨message, -, hmessage⟩ := List.mem_flatMap.mp hmem
  simp at hmessage

/-- A trace has become longer, by notes that say nothing of writes or calls. -/
def LongerBeside (link link' : Link) : Prop :=
  ∃ more, link'.trace = link.trace ++ more ∧ ∀ seen ∈ more, IsAside seen

/-- The reader wakes nobody but workers, and these wake nobody else. -/
lemma longer_deviceSends (hwakes : link.wakes = []) (octets : Octets) :
    LongerBeside link (link.step (.deviceSends octets)) := by
  have hread : Aside link (link.read octets) := aside_read octets
  exact (hread.trans (aside_drain (hread.turns.trans (callTurns_eq_nil hwakes)) _)).trace

/-- Nothing is written while the device is heard. -/
lemma longer_hear (hwakes : link.wakes = []) (device : List Octets) :
    (Conversation.hear link device).wakes = [] ∧ LongerBeside link (Conversation.hear link device) := by
  induction device generalizing link with
  | nil => exact ⟨hwakes, [], (List.append_nil _).symm, List.forall_mem_nil _⟩
  | cons octets rest ih =>
    obtain ⟨more, htrace, hmore⟩ := longer_deviceSends hwakes octets
    obtain ⟨hquiet, later, htrace', hlater⟩ := ih (wakes_step link (.deviceSends octets))
    refine ⟨hquiet, more ++ later, ?_, List.forall_mem_append.mpr ⟨hmore, hlater⟩⟩
    rw [← List.append_assoc, ← htrace]
    exact htrace'

/-- What is seen of the end of a conversation: nothing is written any more. -/
lemma exists_disconnect_trace (hwakes : link.wakes = []) :
    ∃ more, (Panel.step link (.link .disconnect)).trace = link.trace ++ more ∧
      more.filterMap Note.written? = [] := by
  obtain ⟨more, htrace, hmore⟩ := (@aside_hangUp link).trace
  have hquiet : (link.act link.clock .disconnect).wakes = [] := hangUp_wakes hwakes
  refine ⟨more ++ [.finished link.clock .done], ?_, ?_⟩
  · have hstep : Panel.step link (.link .disconnect) =
        { link.act link.clock .disconnect with clock := link.clock + 1 } := step_of_wakes _ hquiet
    rw [hstep, ← List.append_assoc, ← htrace]
    rfl
  · rw [List.filterMap_append, filterMap_aside hmore]
    rfl

/-- A batch goes out as a whole. -/
lemma attempt_sendPackets {socket : ℕ} (hphase : link.phase = .active)
    (hcurrent : link.current = some socket) (hopen : link.isOpen socket)
    (hheld : link.writesHeld = false) (hcalls : link.calls = []) (hwakes : link.wakes = [])
    (hdone : ∀ id error, .finished id (.failed error) ∉ link.trace)
    (hallowed : ∀ error after, link.writeFault = some (error, after) → packets.length ≤ after) :
    Conversation.attempt link (.sendPackets packets) = ⟨{ link with
        writeFault := spend packets.length link.writeFault
        clock := link.clock + 1
        trace := link.trace ++ [.log ⟨.debug, .panel, s!"Sending {packets.length} packet(s)"⟩] ++
          batchNotes packets ++ [.finished link.clock .done] }, none⟩ := by
  have hact : (Panel.log link .debug s!"Sending {packets.length} packet(s)").act link.clock
      (.send packets) = { link with
        writeFault := spend packets.length link.writeFault
        trace := link.trace ++ [.log ⟨.debug, .panel, s!"Sending {packets.length} packet(s)"⟩] ++
          batchNotes packets ++ [.finished link.clock .done] } := by
    have hbatch := @perform_batch (Panel.log link .debug s!"Sending {packets.length} packet(s)")
      socket link.clock hphase hcurrent hopen hheld hcalls packets hallowed
    have hbusy : (Panel.log link .debug s!"Sending {packets.length} packet(s)").isBusy socket =
        false := by
      rw [isBusy, Panel.log, note, hcalls, List.any_nil]
    have hphase' : (Panel.log link .debug s!"Sending {packets.length} packet(s)").phase = .active :=
      hphase
    have hcurrent' : (Panel.log link .debug s!"Sending {packets.length} packet(s)").current =
        some socket := hcurrent
    rw [act, Action.batch, List.cons_append, perform]
    simp only [hphase', hcurrent', hbusy, Bool.false_eq_true, if_false]
    exact hbatch
  have hstep : Panel.step link (.sendPackets packets) = { link with
        writeFault := spend packets.length link.writeFault
        clock := link.clock + 1
        trace := link.trace ++ [.log ⟨.debug, .panel, s!"Sending {packets.length} packet(s)"⟩] ++
          batchNotes packets ++ [.finished link.clock .done] } := by
    rw [Panel.step, Panel.sendPackets]
    refine (step_of_wakes (Event.send packets) ((congrArg Link.wakes hact).trans hwakes)).trans ?_
    exact congrArg (fun next : Link => { next with clock := link.clock + 1 }) hact
  rw [attempt_of_done, hstep]
  · rw [hstep]
    exact hcalls
  · intro id error hmem
    rw [hstep] at hmem
    simp [hdone id error, not_failed_mem_batchNotes id error] at hmem

/-- A batch stands in the trace, and nothing else was written. -/
def WritesOnly (packets : List Octets) (notes : List Note) : Prop :=
  ∃ before after, notes = before ++ batchNotes packets ++ after ∧
    before.filterMap Note.written? = [] ∧ after.filterMap Note.written? = []

lemma WritesOnly.append {notes more : List Note} (h : WritesOnly packets notes)
    (hmore : more.filterMap Note.written? = []) : WritesOnly packets (notes ++ more) := by
  obtain ⟨before, after, rfl, hbefore, hafter⟩ := h
  refine ⟨before, after ++ more, List.append_assoc .., hbefore, ?_⟩
  rw [List.filterMap_append, hafter, hmore, List.append_nil]

lemma WritesOnly.written {notes : List Note} (h : WritesOnly packets notes) :
    notes.filterMap Note.written? = packets := by
  obtain ⟨before, after, rfl, hbefore, hafter⟩ := h
  rw [List.filterMap_append, List.filterMap_append, hbefore, hafter, written_batchNotes,
    List.append_nil, List.nil_append]

/-- A conversation that is accepted, and whose writes succeed, writes the packets and nothing else. -/
lemma writesOnly_hold {address : String} {octets : Octets} {outside : Outside}
    (haddress : Address.ofText? address.toList = some octets) (channel : ℤ)
    (hanswer : outside.answer = .accepted) (hallowed : outside.allows packets.length)
    (listens : Bool) :
    (Conversation.hold outside { address, channel, listeners := [.inbox] } packets listens).error =
        none ∧
      WritesOnly packets
        (Conversation.hold outside { address, channel, listeners := [.inbox] } packets
          listens).link.trace := by
  have hopened : Conversation.attempt
      { address, channel, listeners := [.inbox], writeFault := outside.writeFault }
      (.link (.connect .accepted)) = ⟨joined address channel octets outside.writeFault, none⟩ := by
    rw [attempt_of_done, step_connect_accepted haddress]
    · rw [step_connect_accepted haddress]
      rfl
    · intro id error hmem
      rw [step_connect_accepted haddress] at hmem
      simp [joined] at hmem
  obtain ⟨link, hlink, hphase, hcurrent, hopen, hheld, hcalls, hwakes, hfault, htrace⟩ : ∃ link,
      Panel.step (joined address channel octets outside.writeFault)
        (.addCallback Conversation.callbackName false) = link ∧ link.phase = .active ∧
      link.current = some 0 ∧ link.isOpen 0 ∧ link.writesHeld = false ∧ link.calls = [] ∧
      link.wakes = [] ∧ link.writeFault = outside.writeFault ∧
      link.trace = (joined address channel octets outside.writeFault).trace :=
    ⟨_, rfl, rfl, rfl, rfl, rfl, rfl, rfl, rfl, rfl⟩
  obtain ⟨sent, hsent, hquiet, hwrites⟩ : ∃ sent,
      (if packets.isEmpty then ⟨link, none⟩
        else Conversation.attempt link (.sendPackets packets)) = (⟨sent, none⟩ : Conversation) ∧
      sent.wakes = [] ∧ WritesOnly packets sent.trace := by
    cases packets with
    | nil =>
      refine ⟨link, rfl, hwakes, link.trace, [], ?_, ?_, rfl⟩
      · rw [batchNotes, List.flatMap_nil, List.append_nil, List.append_nil]
      · rw [htrace]
        rfl
    | cons packet rest =>
      have hdone : ∀ id error, .finished id (.failed error) ∉ link.trace := by
        rw [htrace]
        simp [joined]
      refine ⟨_, attempt_sendPackets hphase hcurrent hopen hheld hcalls hwakes hdone
        fun error after h => hallowed error after (hfault ▸ h), hwakes, _, _, rfl, ?_, rfl⟩
      rw [htrace]
      rfl
  rw [Conversation.hold, hanswer]
  dsimp only
  rw [hopened]
  dsimp only
  rw [hlink, Conversation.sendAndListen, hsent]
  refine ⟨rfl, ?_⟩
  obtain ⟨heard, hheard, hwakes', hmore⟩ : ∃ heard,
      (if (none : Option CallError).isNone && listens then Conversation.hear sent outside.device
        else sent) = heard ∧ heard.wakes = [] ∧ LongerBeside sent heard := by
    cases listens with
    | false => exact ⟨sent, rfl, hquiet, [], (List.append_nil _).symm, List.forall_mem_nil _⟩
    | true => exact ⟨_, rfl, longer_hear hquiet outside.device⟩
  dsimp only
  rw [hheard]
  obtain ⟨more, htrace', hmore⟩ := hmore
  obtain ⟨last, hlast, hclosing⟩ := exists_disconnect_trace hwakes'
  rw [hlast, htrace']
  exact (hwrites.append (filterMap_aside hmore)).append hclosing

/-! ### The two runs -/

/-- The target can be found, the device accepts the connection, and the session lasts for a number of
writes. -/
structure GoesThrough (surroundings : Surroundings) (words : List String) (writes : ℕ) : Prop where
  target : ∃ invocation address channel,
    Invocation.ofWords surroundings.storage surroundings.environment words = .ok invocation ∧
      invocation.options.target.resolve surroundings = .ok (address, channel) ∧
      (Address.ofText? address.toList).isSome
  answer : surroundings.outside.answer = .accepted
  lasts : surroundings.outside.allows writes

/-- A request that is refused fails in the same way, dry or not. -/
lemma run_of_error {invocation : Invocation} {failure : Failure}
    (h : (invocation.request.prepare surroundings).2 = .error failure) :
    invocation.run surroundings =
      { lines := (invocation.request.prepare surroundings).1 ++ []
        threshold := invocation.options.threshold
        failure := some failure } := by
  simp only [Invocation.run, h]

/-- A dry run shows the packets of its request. -/
lemma run_asDry {invocation : Invocation}
    (h : (invocation.request.prepare surroundings).2 = .ok packets) :
    invocation.asDry.run surroundings =
      { lines := (invocation.request.prepare surroundings).1 ++ packetLines packets
        threshold := invocation.options.threshold } := by
  have hrequest : invocation.asDry.request = invocation.request := rfl
  have hdry : invocation.asDry.options.dryRun = true := rfl
  have hthreshold : invocation.asDry.options.threshold = invocation.options.threshold := rfl
  simp only [Invocation.run, hrequest, h, hdry, hthreshold, if_true]

/-- Any other run hands them to a conversation once it has found the device. -/
lemma run_of_plain {invocation : Invocation} {address : String} {channel : ℤ}
    (h : (invocation.request.prepare surroundings).2 = .ok packets)
    (hplain : invocation.options.dryRun = false)
    (htarget : invocation.options.target.resolve surroundings = .ok (address, channel)) :
    ∃ listens, (invocation.run surroundings).failure = (Conversation.hold surroundings.outside
        { address, channel, listeners := [.inbox] } packets listens).error.map .call ∧
      (invocation.run surroundings).notes = (Conversation.hold surroundings.outside
        { address, channel, listeners := [.inbox] } packets listens).link.trace := by
  refine ⟨(invocation.request.listening invocation.options.listen).isPositive, ?_⟩
  simp only [Invocation.run, CommandLine.deliver, h, hplain, htarget, Bool.false_eq_true, if_false,
    and_self]

/-- A dry run tells the truth about the same command line without the flag. If it fails, the other run
leaves exactly the same behind, without opening a socket. If it does not, and the other run goes
through, that one writes the packets that were shown, in one batch, and nothing else. -/
theorem dry_run_truthful {dryWords words : List String}
    (h : DiffersByDryRun surroundings dryWords words) :
    let dry := CommandLine.run surroundings dryWords
    let full := CommandLine.run surroundings words
    (dry.failure.isSome → full = dry ∧ full.opened = []) ∧
      (dry.failure = none →
        GoesThrough surroundings words (shownPackets dry.lines).length →
          full.failure = none ∧ full.written = shownPackets dry.lines ∧
            WritesOnly (shownPackets dry.lines) full.notes) := by
  intro dry full
  cases hwords : Invocation.ofWords surroundings.storage surroundings.environment words with
  | error stop =>
    -- both lines stop before they mean anything
    have hsame := h.meaning
    rw [hwords] at hsame
    have hdry : dry = { failure := some (.stop stop) } := by
      simp only [dry, CommandLine.run, hsame, Except.map]
    have hfull : full = { failure := some (.stop stop) } := by
      simp only [full, CommandLine.run, hwords]
    rw [hfull, hdry]
    exact ⟨fun _ => ⟨rfl, rfl⟩, fun hnone => by cases hnone⟩
  | ok invocation =>
    have hsame := h.meaning
    rw [hwords] at hsame
    have hdry : dry = invocation.asDry.run surroundings := by
      simp only [dry, CommandLine.run, hsame, Except.map]
    have hfull : full = invocation.run surroundings := by simp only [full, CommandLine.run, hwords]
    cases hprepared : (invocation.request.prepare surroundings).2 with
    | error failure =>
      have hboth : full = dry := by
        rw [hfull, hdry, run_of_error hprepared, @run_of_error _ invocation.asDry _ hprepared]
        rfl
      refine ⟨fun _ => ⟨hboth, ?_⟩, fun hnone => ?_⟩
      · rw [hfull, run_of_error hprepared]
        rfl
      · rw [hdry, @run_of_error _ invocation.asDry _ hprepared] at hnone
        cases hnone
    | ok packets =>
      rw [hdry, run_asDry hprepared]
      have hshown : shownPackets ((invocation.request.prepare surroundings).1 ++
          packetLines packets) = packets := by
        rw [shownPackets_append, shownPackets_prepare, shownPackets_packetLines, List.nil_append]
      refine ⟨fun hsome => (nomatch hsome), fun _ hgoes => ?_⟩
      dsimp only at hgoes ⊢
      rw [hshown] at hgoes ⊢
      obtain ⟨found, address, channel, hfound, htarget, haddress⟩ := hgoes.target
      obtain rfl := Except.ok.inj (hwords.symm.trans hfound)
      obtain ⟨octets, hoctets⟩ := Option.isSome_iff_exists.mp haddress
      obtain ⟨listens, hfailure, hnotes⟩ := run_of_plain hprepared (h.plain invocation hwords) htarget
      obtain ⟨herror, hwrites⟩ :=
        writesOnly_hold hoctets channel hgoes.answer hgoes.lasts listens
      rw [← hfull, herror] at hfailure
      rw [← hfull] at hnotes
      rw [← hnotes] at hwrites
      exact ⟨hfailure, hwrites.written, hwrites⟩

/-! ### The brightness of a panel -/

/-- A line that sets the brightness of a panel with a known address. -/
def brightnessWords : List String := ["--address", "11:22:33:44:55:66", "brightness", "7"]

/-- What it means. -/
def brightnessMeaning : Invocation where
  options :=
    { target := { address := some "11:22:33:44:55:66" }, listen := .zero, dryRun := false,
      threshold := Level.info.weight }
  request := .command (.setBrightness 7)

/-- The device accepts the connection and takes one message. -/
def oneWrite : Surroundings where
  now := ⟨2024, 2, 29, 12, 0, 0⟩
  outside := { writeFault := some (.closedSocket, 1) }

/-- The options and the brightness of an invocation that sets it. -/
def brightness? (invocation : Invocation) : Option (Options × ℤ) :=
  match invocation.request with
  | .command (.setBrightness level) => some (invocation.options, level)
  | _ => none

lemma eq_of_brightness? {meant : Except Stop Invocation} {options : Options} {level : ℤ}
    (h : meant.toOption.bind brightness? = some (options, level)) :
    meant = .ok ⟨options, .command (.setBrightness level)⟩ := by
  obtain ⟨⟨options', request⟩, hmeant, hfound⟩ := Option.bind_eq_some_iff.mp h
  cases meant with
  | error stop => cases hmeant
  | ok invocation =>
    obtain rfl := Option.some.inj hmeant
    unfold brightness? at hfound
    split at hfound
    · rename_i found hrequest
      obtain ⟨rfl, rfl⟩ := Prod.mk.inj (Option.some.inj hfound)
      obtain rfl : request = .command (.setBrightness found) := hrequest
      rfl
    · cases hfound

theorem dry_run_truthful_brightness :
    let dry := CommandLine.run oneWrite ("--dry-run" :: brightnessWords)
    let full := CommandLine.run oneWrite brightnessWords
    DiffersByDryRun oneWrite ("--dry-run" :: brightnessWords) brightnessWords ∧
      dry.failure = none ∧ GoesThrough oneWrite brightnessWords (shownPackets dry.lines).length ∧
      full.failure = none ∧ full.written = [[0x01, 0x04, 0x00, 0x74, 0x07, 0x7f, 0x00, 0x02]] ∧
      WritesOnly [[0x01, 0x04, 0x00, 0x74, 0x07, 0x7f, 0x00, 0x02]] full.notes := by
  intro dry full
  have hplain : Invocation.ofWords oneWrite.storage oneWrite.environment brightnessWords =
      .ok brightnessMeaning := eq_of_brightness? (by decide +kernel)
  have hdry : Invocation.ofWords oneWrite.storage oneWrite.environment
      ("--dry-run" :: brightnessWords) = .ok brightnessMeaning.asDry :=
    eq_of_brightness? (by decide +kernel)
  have hdiffers : DiffersByDryRun oneWrite ("--dry-run" :: brightnessWords) brightnessWords := by
    refine ⟨hdry.trans (congrArg (Except.map Invocation.asDry) hplain.symm), fun invocation h => ?_⟩
    obtain rfl := Except.ok.inj (hplain.symm.trans h)
    rfl
  have hrun : dry =
      { lines := packetLines [[0x01, 0x04, 0x00, 0x74, 0x07, 0x7f, 0x00, 0x02]]
        threshold := brightnessMeaning.options.threshold } := by
    have hprepared : (brightnessMeaning.request.prepare oneWrite).2 =
        .ok [[0x01, 0x04, 0x00, 0x74, 0x07, 0x7f, 0x00, 0x02]] := by rfl
    simp only [dry, CommandLine.run, hdry]
    exact run_asDry hprepared
  have hshown : shownPackets dry.lines = [[0x01, 0x04, 0x00, 0x74, 0x07, 0x7f, 0x00, 0x02]] := by
    rw [hrun, shownPackets_packetLines]
  have hgoes : GoesThrough oneWrite brightnessWords (shownPackets dry.lines).length := by
    refine ⟨⟨_, _, 1, hplain, rfl, by decide +kernel⟩, rfl, fun error after h => ?_⟩
    obtain ⟨rfl, rfl⟩ := Prod.mk.inj (Option.some.inj h)
    rw [hshown]
    exact Nat.le_refl _
  have hnone : dry.failure = none := by rw [hrun]
  obtain ⟨hfailure, hwritten, hbatch⟩ := (dry_run_truthful hdiffers).2 hnone hgoes
  exact ⟨hdiffers, hnone, hgoes, hfailure, hwritten.trans hshown, hshown ▸ hbatch⟩

end PixelPanel.Proofs
