import Syslog.Proofs.Delivery.Visits

/-!
# What becomes of messages

Each message that is sent to an open sender is written, or refused because there is no connection to
be had, or it fails and is handed to the backlog. This file says what else happens in each case, and
what has happened after many messages.

* `observers`: whom the handlers of a backlog tell that a sender is up or down;
* `Takes`, `Handed`: what a handler does with a message, and a message that is handed to handlers,
  one after the other, with what comes of each;
* `Fated`: what a sender does with one message, by the fate of the message, effect by effect;
  `Fated.unique` and `deliverSender_fated`: it does exactly one of these things;
* `Fated.tally`: what it has counted then, and whether it is down;
* `sendAll`, `Sends`: many messages, and the fate of each of them;
* `sendAll_fates`: a whole run.
-/

namespace Syslog

open Network Sender

/-! ## 1. Up and down -/

/-- Whom handlers tell what they learn, in their order: the log of the program, or somebody of a
name. -/
def observers : List Handler → List Observer
  | [] => []
  | .tracing :: rest => .log :: observers rest
  | .custom name _ :: rest => .named name :: observers rest
  | .null :: rest | .delegate .. :: rest => observers rest

theorem filterMap_observer? (handlers : List Handler) :
    handlers.filterMap Handler.observer? = observers handlers := by
  induction handlers with
  | nil => rfl
  | cons handler rest ih =>
    cases handler with
    | tracing | custom => exact congrArg (_ :: ·) ih
    | null | delegate => exact ih

namespace Backlog

variable (b : Backlog) (sender : String)

theorem tellUp_eq : b.tellUp sender = (observers b.handlers).map fun o => .up o sender :=
  congrArg (List.map _) (filterMap_observer? b.handlers)

theorem tellDown_eq (cause : String) :
    b.tellDown sender cause = (observers b.handlers).map fun o => .down o sender cause :=
  congrArg (List.map _) (filterMap_observer? b.handlers)

theorem isDown_iff : b.isDown sender = true ↔ sender ∈ b.down := List.contains_iff_mem

/-- Only a sender that was down is told to be up. -/
theorem noteUp_eq :
    b.noteUp sender =
      ({ b with down := b.down.filter (· != sender) },
        if sender ∈ b.down then (observers b.handlers).map fun o => .up o sender else []) := by
  unfold noteUp markUp?
  by_cases was : sender ∈ b.down
  · rw [if_pos ((b.isDown_iff sender).2 was), if_pos was]
    exact congrArg (Prod.mk _) (b.tellUp_eq sender)
  · have all : b.down.filter (· != sender) = b.down := by
      refine List.filter_eq_self.2 fun other member => ?_
      rw [bne_iff_ne]
      rintro rfl
      exact was member
    rw [if_neg (mt (b.isDown_iff sender).1 was), if_neg was, all]

theorem markDown_eq :
    b.markDown sender =
      { b with down := if sender ∈ b.down then b.down else b.down ++ [sender] } := by
  unfold markDown
  by_cases was : sender ∈ b.down
  · rw [if_pos ((b.isDown_iff sender).2 was), if_pos was]
  · rw [if_neg (mt (b.isDown_iff sender).1 was), if_neg was]

theorem isDown_of_up : isDown { b with down := b.down.filter (· != sender) } sender = false := by
  simp [isDown]

theorem isDown_of_down (handlers : List Handler) :
    isDown { handlers, down := if sender ∈ b.down then b.down else b.down ++ [sender] } sender =
      true := by
  rw [isDown_iff]
  dsimp only
  split
  · assumption
  · exact List.mem_append_right _ (List.mem_singleton_self _)

end Backlog

/-! ## 2. Handlers -/

section Handlers

variable (next : Delivery) (sender : String) (m : Message) (reason : String) (route : Route)

/-- What a handler does with a message that a sender could not write, and what comes of it. -/
inductive Takes : Handler → Network → Except DeliveryError Unit → Handler → Network → Prop
  /-- It writes the message to the log. -/
  | logs {net : Network} :
      Takes .tracing net (.ok ()) .tracing
        { net with effects := net.effects ++ [.undelivered .log sender m reason route] }
  | drops {net : Network} : Takes .null net (.ok ()) .null net
  /-- It is given the message, and answers. -/
  | answers {net : Network} {name : String} {answers : Script (Except DeliveryError Unit)} :
      Takes (.custom name answers) net (answers.answer 0) (.custom name answers.next.2)
        { net with effects := net.effects ++ [.undelivered (.named name) sender m reason route] }
  /-- The message has passed the target before. -/
  | refuses {net : Network} {target : String} {appendReason : Bool}
      (passed : Text.equalIgnoringAsciiCase (Text.trim target) sender = true ∨
        route.contains (Text.trim target) = true) :
      Takes (.delegate target appendReason) net
        (.error (.config (.selfDelegation (Text.trim target)))) (.delegate target appendReason) net
  /-- It sends the message on, perhaps with the reason at its end. -/
  | delegates {net net' : Network} {target : String} {appendReason : Bool}
      {result : Except DeliveryError Unit}
      (other : Text.equalIgnoringAsciiCase (Text.trim target) sender = false)
      (new : route.contains (Text.trim target) = false)
      (delivered : deliverTo next target target route
        { m with body := if appendReason then m.body ++ " [" ++ reason ++ "]" else m.body } net =
          (result, net')) :
      Takes (.delegate target appendReason) net result (.delegate target appendReason) net'

/-- A message that is handed to handlers, one after the other: what comes of each, and the handlers
and the network afterwards. -/
inductive Handed : List Handler → Network → List (Except DeliveryError Unit) → List Handler →
    Network → Prop
  | nil {net : Network} : Handed [] net [] [] net
  | cons {handler handler' : Handler} {rest rest' : List Handler} {net net' net'' : Network}
      {result : Except DeliveryError Unit} {results : List (Except DeliveryError Unit)}
      (first : Takes next sender m reason route handler net result handler' net')
      (later : Handed rest net' results rest' net'') :
      Handed (handler :: rest) net (result :: results) (handler' :: rest') net''

variable {next sender m reason route}

theorem hand_delegate_of_passed {target : String} {appendReason : Bool} (net : Network)
    (passed : Text.equalIgnoringAsciiCase (Text.trim target) sender = true ∨
      route.contains (Text.trim target) = true) :
    hand next sender m reason route (.delegate target appendReason) net =
      (.error (.config (.selfDelegation (Text.trim target))), .delegate target appendReason,
        net) := by
  rw [hand_eq]
  simp only [Handler.receive, Bool.or_eq_true, if_pos passed, record_nil]

theorem hand_delegate_of_new {target : String} {appendReason : Bool} (net : Network)
    (other : Text.equalIgnoringAsciiCase (Text.trim target) sender = false)
    (new : route.contains (Text.trim target) = false) :
    hand next sender m reason route (.delegate target appendReason) net =
      let out := deliverTo next target target route
        { m with body := if appendReason then m.body ++ " [" ++ reason ++ "]" else m.body } net
      (out.1, .delegate target appendReason, out.2) := by
  rw [hand_eq]
  simp only [Handler.receive, Bool.or_eq_true, other, new, Bool.false_eq_true, or_self, if_false,
    record_nil]
  cases appendReason <;> rfl

/-- **What a handler does with a message.** -/
theorem takes_hand (handler : Handler) (net : Network) :
    Takes next sender m reason route handler net (hand next sender m reason route handler net).1
      (hand next sender m reason route handler net).2.1
      (hand next sender m reason route handler net).2.2 := by
  cases handler with
  | tracing => exact .logs
  | null =>
    rw [hand_eq]
    exact (record_nil net).symm ▸ .drops
  | delegate target appendReason =>
    by_cases passed : Text.equalIgnoringAsciiCase (Text.trim target) sender = true ∨
        route.contains (Text.trim target) = true
    · rw [hand_delegate_of_passed net passed]
      exact .refuses passed
    · obtain ⟨other, new⟩ := not_or.1 passed
      rw [hand_delegate_of_new net (Bool.eq_false_iff.2 other) (Bool.eq_false_iff.2 new)]
      exact .delegates (Bool.eq_false_iff.2 other) (Bool.eq_false_iff.2 new) rfl
  | custom name answers =>
    rw [hand_eq]
    simp only [Handler.receive, Script.next_fst]
    exact .answers

theorem Takes.hand_eq {handler handler' : Handler} {net net' : Network}
    {result : Except DeliveryError Unit}
    (takes : Takes next sender m reason route handler net result handler' net') :
    hand next sender m reason route handler net = (result, handler', net') := by
  cases takes with
  | logs => rfl
  | drops => exact congrArg (fun net => (_, _, net)) (record_nil net)
  | answers =>
    rw [← Script.next_fst]
    rfl
  | refuses passed => exact hand_delegate_of_passed net passed
  | delegates other new delivered =>
    rw [hand_delegate_of_new net other new, delivered]

theorem Handed.keeps (keeps : Keeps next) {handlers handlers' : List Handler} {net net' : Network}
    {results : List (Except DeliveryError Unit)}
    (h : Handed next sender m reason route handlers net results handlers' net') :
    net.SameTargets net' := by
  induction h with
  | nil => exact .refl _
  | @cons handler _ _ _ net _ _ _ _ first later ih =>
    have step : net.SameTargets (hand next sender m reason route handler net).2.2 :=
      hand_keeps keeps sender reason handler (.refl net)
    rw [first.hand_eq] at step
    exact step.trans ih

theorem Handed.unique {handlers handlers' handlers'' : List Handler} {net net' net'' : Network}
    {results results' : List (Except DeliveryError Unit)}
    (h : Handed next sender m reason route handlers net results handlers' net')
    (h' : Handed next sender m reason route handlers net results' handlers'' net'') :
    results' = results ∧ handlers'' = handlers' ∧ net'' = net' := by
  induction h generalizing results' handlers'' net'' with
  | nil =>
    cases h'
    exact ⟨rfl, rfl, rfl⟩
  | cons first later ih =>
    cases h' with
    | cons first' later' =>
      obtain ⟨rfl, same⟩ := Prod.mk.inj (first'.hand_eq.symm.trans first.hand_eq)
      obtain ⟨rfl, rfl⟩ := Prod.mk.inj same
      obtain ⟨rfl, rfl, rfl⟩ := ih later'
      exact ⟨rfl, rfl, rfl⟩

/-- Every handler is given the message, and the first fault of the configuration is told. -/
theorem handAll_handed (handlers : List Handler) (net : Network) :
    ∃ results handlers' net',
      Handed next sender m reason route handlers net results handlers' net' ∧
      handAll next sender m reason route handlers net =
        (results.findSome? configFault, handlers', net') := by
  induction handlers generalizing net with
  | nil => exact ⟨[], [], net, .nil, rfl⟩
  | cons handler rest ih =>
    have first : Takes next sender m reason route handler net _ _ _ := takes_hand handler net
    rw [handAll_cons]
    generalize hand next sender m reason route handler net = out at first ⊢
    obtain ⟨result, handler', net'⟩ := out
    obtain ⟨results, rest', net'', later, eq⟩ := ih net'
    refine ⟨result :: results, handler' :: rest', net'', .cons first later, ?_⟩
    dsimp only
    rw [eq, List.findSome?_cons]
    cases configFault result <;> rfl

end Handlers

/-! ## 3. One message -/

/-- How often a sender tries to write a message. -/
def Sender.allowed (s : Sender) : Nat := min (s.settings.transport.writeRetries + 1) 4294967295

/-- What a sender answers that could not write a message: the first error of the configuration
among the results of its handlers, or else what its settings say. -/
def Sender.reply (s : Sender) (e : TransportError) (results : List (Except DeliveryError Unit)) :
    Except DeliveryError Unit :=
  let isFault : Except DeliveryError Unit → Bool
    | .error fault => fault.isConfig
    | .ok () => false
  match results.find? isFault with
  | some fault => fault
  | none =>
    if s.settings.throwOnWriteFailure then .error (.exhausted s.name s.allowed e) else .ok ()

theorem Sender.verdict_eq (s : Sender) (e : TransportError)
    (results : List (Except DeliveryError Unit)) :
    s.verdict e (results.findSome? configFault) = s.reply e results := by
  induction results with
  | nil => rfl
  | cons result rest ih =>
    cases result with
    | ok => exact ih
    | error fault =>
      cases is : fault.isConfig with
      | true => simp [reply, configFault, is, verdict]
      | false => simpa [reply, configFault, is] using ih

/-- What a sender at a position does with a message, by the fate of the message: the answer, and the
sender and the network afterwards, with all that was done outside. -/
inductive Fated (next : Delivery) (route : Route) (id : Nat) (m : Message) (net : Network)
    (s : Sender) : Fate → Except DeliveryError Unit → Sender → Network → Prop
  /-- An attempt succeeds. The sender is up; if it was down each handler is told so, once and in
  order. -/
  | written {retries : Nat} {s' : Sender}
      (settles : Settles s.link.outcomes.answer s.allowed retries .written)
      (after : s' =
        { s.spent net.now m retries with
          backlog := { s.backlog with down := s.backlog.down.filter (· != s.name) }
          counts := { s.counts with
            sent := s.counts.sent + 1
            retries := s.counts.retries + retries } }) :
      Fated next route id m net s .written (.ok ()) s'
        { net with
          effects := net.effects ++ s.writes net.now m retries ++
            if s.name ∈ s.backlog.down then
              (observers s.backlog.handlers).map fun o => .up o s.name
            else []
          targets := net.targets.set id (.sender s') }
  /-- There is no connection to be had. -/
  | refused {retries : Nat} {e : TransportError} {s' : Sender}
      (settles : Settles s.link.outcomes.answer s.allowed retries (.refused e))
      (after : s' =
        { s.spent net.now m retries with
          backlog := s.backlog
          counts := { s.counts with retries := s.counts.retries + retries } }) :
      Fated next route id m net s (.refused e) (.error (.transport e)) s'
        { net with
          effects := net.effects ++ s.writes net.now m retries
          targets := net.targets.set id (.sender s') }
  /-- All attempts fail. The sender is down, which each handler is told, once and in order; then
  each of them, in order, is given the message as the modifiers have left it. -/
  | failed {retries : Nat} {e : TransportError} {s' : Sender} {net' : Network}
      {results : List (Except DeliveryError Unit)} {handlers : List Handler}
      (settles : Settles s.link.outcomes.answer s.allowed retries (.failed e))
      (handed : Handed next s.name (s.prepare net.now m).1 e.message (route.extend s.name)
        s.backlog.handlers
        { net with
          effects := net.effects ++ s.writes net.now m retries ++
            (observers s.backlog.handlers).map fun o => .down o s.name e.message }
        results handlers net')
      (after : s' =
        { s.spent net.now m retries with
          backlog :=
            { handlers
              down := if s.name ∈ s.backlog.down then s.backlog.down
                else s.backlog.down ++ [s.name] }
          counts := { s.counts with
            failed := s.counts.failed + 1
            downEvents := s.counts.downEvents + 1
            retries := s.counts.retries + retries } }) :
      Fated next route id m net s (.failed e) (s.reply e results) s'
        { net' with targets := net'.targets.set id (.sender s') }

/-- **An open sender does one of the three.** -/
theorem deliverSender_fated {next : Delivery} {route : Route} {s : Sender} (id : Nat) (m : Message)
    (net : Network) (new : route.contains s.name = false) (isOpen : s.closed = false) :
    ∃ fate result s' net', Fated next route id m net s fate result s' net' ∧
      deliverSender next route id s m net = (result, net') := by
  rw [deliverSender_open next id new isOpen]
  obtain ⟨retries, fate, settles, eq⟩ := s.attemptAll_prepare net.now m
  simp only [eq]
  cases fate with
  | written =>
    refine ⟨_, _, _, _, .written settles rfl, ?_⟩
    rw [record_record, noteWritten, Backlog.noteUp_eq, List.append_assoc]
    rfl
  | refused e => exact ⟨_, _, _, _, .refused settles rfl, rfl⟩
  | failed e =>
    let told : Network :=
      { net with
        effects := net.effects ++ s.writes net.now m retries ++
          (observers s.backlog.handlers).map fun o => .down o s.name e.message }
    obtain ⟨results, handlers, net', handed, all⟩ :
        ∃ results handlers net', Handed next s.name (s.prepare net.now m).1 e.message
          (route.extend s.name) s.backlog.handlers told results handlers net' ∧ _ :=
      handAll_handed s.backlog.handlers told
    refine ⟨_, _, _, _, .failed settles handed rfl, ?_⟩
    -- neither the attempts nor the note that they failed change the handlers
    have noted : handAll next (s.spent net.now m retries).name (s.prepare net.now m).1 e.message
        (route.extend (s.spent net.now m retries).name)
        ((s.spent net.now m retries).noteFailed e.message).1.backlog.handlers
        ((net.record (s.writes net.now m retries)).record
          ((s.spent net.now m retries).noteFailed e.message).2) =
        (results.findSome? configFault, handlers, net') := by
      rw [noteFailed_handlers, record_record, noteFailed, Backlog.noteDown, Backlog.tellDown_eq,
        record, ← List.append_assoc]
      exact all
    refine (escalate_eq next id e).trans ?_
    dsimp only
    rw [noted, Sender.noteFailed, Backlog.noteDown, Backlog.markDown_eq]
    exact congrArg (·, _) (s.verdict_eq e results)

section Fates

variable {next : Delivery} {route : Route} {id : Nat} {m : Message} {net net' net'' : Network}
  {s s' s'' : Sender} {fate fate' : Fate} {result result' : Except DeliveryError Unit}

/-- **A sender never does two of them**, nor one of them in two ways. -/
theorem Fated.unique (h : Fated next route id m net s fate result s' net')
    (h' : Fated next route id m net s fate' result' s'' net'') :
    fate' = fate ∧ result' = result ∧ s'' = s' ∧ net'' = net' := by
  -- the answers settle the number of retries and the fate, and these settle all the rest
  cases h with
  | written settles after =>
    cases h' with
    | written settles' after' =>
      obtain ⟨rfl, -⟩ := settles.unique settles'
      obtain rfl := after'.trans after.symm
      exact ⟨rfl, rfl, rfl, rfl⟩
    | refused settles' => cases (settles.unique settles').2
    | failed settles' => cases (settles.unique settles').2
  | refused settles after =>
    cases h' with
    | written settles' => cases (settles.unique settles').2
    | refused settles' after' =>
      obtain ⟨rfl, same⟩ := settles.unique settles'
      cases same
      obtain rfl := after'.trans after.symm
      exact ⟨rfl, rfl, rfl, rfl⟩
    | failed settles' => cases (settles.unique settles').2
  | failed settles handed after =>
    cases h' with
    | written settles' => cases (settles.unique settles').2
    | refused settles' => cases (settles.unique settles').2
    | failed settles' handed' after' =>
      obtain ⟨rfl, same⟩ := settles.unique settles'
      cases same
      obtain ⟨rfl, rfl, rfl⟩ := handed.unique handed'
      obtain rfl := after'.trans after.symm
      exact ⟨rfl, rfl, rfl, rfl⟩

namespace Sender.Fate

/-- Is the message written? -/
def isWritten : Fate → Bool
  | written => true
  | refused _ | failed _ => false

/-- Did all attempts fail? -/
def isFailed : Fate → Bool
  | failed _ => true
  | written | refused _ => false

/-- Is the sender down after a message, if it was `down` before? -/
def leaves (down : Bool) : Fate → Bool
  | written => false
  | refused _ => down
  | failed _ => true

end Sender.Fate

/-- The fate is the one that the answers decide, and the next message takes the answers after them.
-/
theorem Fated.settles (h : Fated next route id m net s fate result s' net') :
    ∃ retries, Settles s.link.outcomes.answer s.allowed retries fate ∧ s'.allowed = s.allowed ∧
      s'.link.outcomes.answer = fun k => s.link.outcomes.answer (retries + 1 + k) := by
  cases h with
  | written settles after | refused settles after | failed settles handed after =>
    rw [after]
    exact ⟨_, settles, rfl, funext fun k => s.answer_spent net.now m _ k⟩

/-- What the fate of a message adds to the counts, and whether the sender is down then. -/
theorem Fated.tally (h : Fated next route id m net s fate result s' net') :
    s'.counts.sent = s.counts.sent + (if fate.isWritten then 1 else 0) ∧
      s'.counts.failed = s.counts.failed + (if fate.isFailed then 1 else 0) ∧
      s'.counts.downEvents = s.counts.downEvents + (if fate.isFailed then 1 else 0) ∧
      s'.isDown = fate.leaves s.isDown := by
  cases h with
  | written settles after =>
    rw [after]
    exact ⟨rfl, rfl, rfl, s.backlog.isDown_of_up s.name⟩
  | refused settles after =>
    rw [after]
    exact ⟨rfl, rfl, rfl, rfl⟩
  | failed settles handed after =>
    rw [after]
    exact ⟨rfl, rfl, rfl, s.backlog.isDown_of_down s.name _⟩

/-- The sender stays open, and where it is. -/
theorem Fated.stays (keeps : Keeps next) (h : Fated next route id m net s fate result s' net')
    (here : net.targets[id]? = some (.sender s)) :
    s'.closed = s.closed ∧ net'.targets[id]? = some (.sender s') := by
  have put_here : ∀ {targets : List Target},
      targets.map (fun t => (t.name, t.looks)) = net.targets.map (fun t => (t.name, t.looks)) →
      (targets.set id (.sender s'))[id]? = some (.sender s') := fun same => by
    have inside : id < net.targets.length := (List.getElem?_eq_some_iff.1 here).1
    have as_many := congrArg List.length same
    rw [List.length_map, List.length_map] at as_many
    rw [List.getElem?_set, if_pos rfl, if_pos (as_many ▸ inside)]
  cases h with
  | written settles after => exact ⟨by rw [after]; rfl, put_here rfl⟩
  | refused settles after => exact ⟨by rw [after]; rfl, put_here rfl⟩
  | failed settles handed after => exact ⟨by rw [after]; rfl, put_here (handed.keeps keeps).targets⟩

/-- Is it something that handlers are told or given? -/
def Effect.isNotice : Effect → Bool
  | .down .. | .up .. | .undelivered .. => true
  | .write .. | .reset _ | .close _ | .received .. | .released _ => false

/-- Attempts to write are nothing that handlers are told. -/
theorem Sender.filter_writes (s : Sender) (now : Time.DateTime) (m : Message) (retries : Nat) :
    (s.writes now m retries).filter Effect.isNotice = [] := by
  refine List.filter_eq_nil_iff.2 fun effect member => ?_
  rcases List.mem_cons.1 member with rfl | member
  · exact Bool.false_ne_true
  · obtain ⟨k, -, member⟩ := List.mem_flatMap.1 member
    rcases List.mem_append.1 member with reset | written
    · split at reset
      · rw [List.mem_singleton.1 reset]
        exact Bool.false_ne_true
      · cases reset
    · rw [List.mem_singleton.1 written]
      exact Bool.false_ne_true

/-- What handlers are told and given, in order. -/
def Network.notices (net : Network) : List Effect := net.effects.filter Effect.isNotice

/-- Does the handler send messages on? -/
def Handler.sendsOn : Handler → Bool
  | .delegate .. => true
  | .tracing | .null | .custom .. => false

/-- Handlers that send nothing on are each given the message, and stay who they are. -/
theorem Handed.notices {sender reason : String} {handlers handlers' : List Handler}
    {results : List (Except DeliveryError Unit)} (plain : ∀ h ∈ handlers, h.sendsOn = false)
    (h : Handed next sender m reason route handlers net results handlers' net') :
    net'.notices = net.notices ++
        (observers handlers).map (fun o => .undelivered o sender m reason route) ∧
      observers handlers' = observers handlers := by
  induction h with
  | nil => exact ⟨(List.append_nil _).symm, rfl⟩
  | @cons handler handler' rest rest' net net' net'' result results first later ih =>
    obtain ⟨own, others⟩ := List.forall_mem_cons.1 plain
    obtain ⟨told, same⟩ := ih others
    cases first with
    | drops => exact ⟨told, same⟩
    | logs | answers =>
      refine ⟨?_, congrArg (_ :: ·) same⟩
      rw [told, Network.notices, List.filter_append, List.append_assoc]
      rfl
    | refuses | delegates => cases own

/-- What handlers are told of a message that is written. -/
theorem Fated.notices_of_written (h : Fated next route id m net s .written result s' net') :
    net'.notices = net.notices ++
      if s.name ∈ s.backlog.down then (observers s.backlog.handlers).map (.up · s.name)
      else [] := by
  cases h with
  | written settles after =>
    have told : ∀ (p : Prop) [Decidable p],
        (if p then (observers s.backlog.handlers).map (Effect.up · s.name) else []).filter
          Effect.isNotice =
        if p then (observers s.backlog.handlers).map (Effect.up · s.name) else [] := by
      intro p _
      refine List.filter_eq_self.2 fun effect member => ?_
      split at member
      · obtain ⟨o, -, rfl⟩ := List.mem_map.1 member
        rfl
      · cases member
    rw [Network.notices, List.filter_append, List.filter_append, s.filter_writes, told,
      List.append_nil]
    rfl

/-- They are told nothing of one that is refused, and learn nothing new of the sender. -/
theorem Fated.notices_of_refused {e : TransportError}
    (h : Fated next route id m net s (.refused e) result s' net') :
    net'.notices = net.notices ∧ s'.name = s.name ∧ s'.backlog = s.backlog := by
  cases h with
  | refused settles after =>
    refine ⟨?_, by rw [after]; rfl, by rw [after]⟩
    rw [Network.notices, List.filter_append, s.filter_writes, List.append_nil]
    rfl

/-- Of one that failed they are told that the sender is down, and then they are given the message. -/
theorem Fated.notices_of_failed {e : TransportError}
    (plain : ∀ h ∈ s.backlog.handlers, h.sendsOn = false)
    (h : Fated next route id m net s (.failed e) result s' net') :
    net'.notices = net.notices ++
        (observers s.backlog.handlers).map (.down · s.name e.message) ++
        (observers s.backlog.handlers).map
          (.undelivered · s.name (s.prepare net.now m).1 e.message (route.extend s.name)) ∧
      s'.name = s.name ∧ s.name ∈ s'.backlog.down ∧
      observers s'.backlog.handlers = observers s.backlog.handlers := by
  cases h with
  | @failed retries _ _ net' results handlers settles handed after =>
    obtain ⟨given, same⟩ := handed.notices plain
    have told : ((observers s.backlog.handlers).map (Effect.down · s.name e.message)).filter
        Effect.isNotice = (observers s.backlog.handlers).map (Effect.down · s.name e.message) := by
      refine List.filter_eq_self.2 fun effect member => ?_
      obtain ⟨o, -, rfl⟩ := List.mem_map.1 member
      rfl
    refine ⟨?_, by rw [after]; rfl, ?_, by rw [after]; exact same⟩
    · refine Eq.trans given (congrArg (· ++ _) ?_)
      rw [Network.notices, List.filter_append, List.filter_append, s.filter_writes, told,
        List.append_nil]
      rfl
    · rw [after, ← Backlog.isDown_iff]
      exact s.backlog.isDown_of_down s.name handlers

end Fates

/-! ## 4. Many messages -/

/-- Sends messages, each at its time, to the target at a position. -/
def Network.sendAll (net : Network) (id : Nat) :
    List (Time.DateTime × Message) → List (Except DeliveryError Unit) × Network
  | [] => ([], net)
  | (now, m) :: rest =>
    let (result, net) := Network.send { net with now } id m
    let (results, net) := net.sendAll id rest
    (result :: results, net)

/-- Messages that are sent to a sender, one after the other: their fates and the answers, and the
sender and the network afterwards. -/
inductive Sends (id : Nat) : Network → Sender → List (Time.DateTime × Message) → List Fate →
    List (Except DeliveryError Unit) → Sender → Network → Prop
  | nil {net : Network} {s : Sender} : Sends id net s [] [] [] s net
  | cons {net net' net'' : Network} {s s' s'' : Sender} {now : Time.DateTime} {m : Message}
      {rest : List (Time.DateTime × Message)} {fate : Fate} {fates : List Fate}
      {result : Except DeliveryError Unit} {results : List (Except DeliveryError Unit)}
      (first : Fated (deliver net.targets.length) {} id m { net with now } s fate result s' net')
      (later : Sends id net' s' rest fates results s'' net'') :
      Sends id net s ((now, m) :: rest) (fate :: fates) (result :: results) s'' net''

section Run

variable {id : Nat} {net net' net'' : Network} {s s' s'' : Sender}
  {messages : List (Time.DateTime × Message)} {fates fates' : List Fate}
  {results results' : List (Except DeliveryError Unit)}

theorem Sends.unique (h : Sends id net s messages fates results s' net')
    (h' : Sends id net s messages fates' results' s'' net'') :
    fates' = fates ∧ results' = results ∧ s'' = s' ∧ net'' = net' := by
  induction h generalizing fates' results' s'' net'' with
  | nil =>
    cases h'
    exact ⟨rfl, rfl, rfl, rfl⟩
  | cons first later ih =>
    cases h' with
    | cons first' later' =>
      obtain ⟨rfl, rfl, rfl, rfl⟩ := first.unique first'
      obtain ⟨rfl, rfl, rfl, rfl⟩ := ih later'
      exact ⟨rfl, rfl, rfl, rfl⟩

/-- The counts after many messages are those of their fates; the last one that was not refused
decides whether the sender is down. -/
theorem Sends.tally (h : Sends id net s messages fates results s' net') :
    s'.counts.sent = s.counts.sent + fates.countP Fate.isWritten ∧
      s'.counts.failed = s.counts.failed + fates.countP Fate.isFailed ∧
      s'.counts.downEvents = s.counts.downEvents + fates.countP Fate.isFailed ∧
      s'.isDown = fates.foldl Fate.leaves s.isDown := by
  induction h with
  | nil => exact ⟨rfl, rfl, rfl, rfl⟩
  | cons first later ih =>
    obtain ⟨sent, failed, downs, down⟩ := first.tally
    obtain ⟨sent', failed', downs', down'⟩ := ih
    simp only [List.countP_cons, List.foldl_cons]
    exact ⟨by omega, by omega, by omega, by rw [down', down]⟩

/-- One message that is sent to an open sender. -/
theorem send_fated (here : net.targets[id]? = some (.sender s)) (isOpen : s.closed = false)
    (m : Message) :
    ∃ fate result s' net', Fated (deliver net.targets.length) {} id m net s fate result s' net' ∧
      net.send id m = (result, net') := by
  rw [send, sendRouted, deliver, deliverStep, here]
  exact deliverSender_fated id m net rfl isOpen

/-- Many messages: the sender stays open. -/
theorem sendAll_of_open (here : net.targets[id]? = some (.sender s)) (isOpen : s.closed = false)
    (messages : List (Time.DateTime × Message)) :
    ∃ fates s', Sends id net s messages fates (net.sendAll id messages).1 s'
      (net.sendAll id messages).2 := by
  induction messages generalizing net s with
  | nil => exact ⟨[], s, .nil⟩
  | cons first rest ih =>
    obtain ⟨now, m⟩ := first
    obtain ⟨fate, result, s', net', fated, eq⟩ := @send_fated id { net with now } s here isOpen m
    obtain ⟨closed, there⟩ := fated.stays (deliver_keeps _) here
    obtain ⟨fates, s'', sends⟩ := ih there (closed.trans isOpen)
    rw [sendAll, eq]
    exact ⟨fate :: fates, s'', .cons fated sends⟩

/-- **Each message that is sent to an open sender has exactly one fate**: it is written, refused or
failed, as the answers of the peer decide. The fates tell what the sender has counted, and whether
it is down. -/
theorem sendAll_fates (here : net.targets[id]? = some (.sender s)) (isOpen : s.closed = false)
    (messages : List (Time.DateTime × Message)) :
    ∃ fates s', Sends id net s messages fates (net.sendAll id messages).1 s'
        (net.sendAll id messages).2 ∧
      (∀ fates' results s'' net', Sends id net s messages fates' results s'' net' →
        fates' = fates) ∧
      s'.counts.sent = s.counts.sent + fates.countP Fate.isWritten ∧
      s'.counts.failed = s.counts.failed + fates.countP Fate.isFailed ∧
      s'.counts.downEvents = s.counts.downEvents + fates.countP Fate.isFailed ∧
      s'.isDown = fates.foldl Fate.leaves s.isDown := by
  obtain ⟨fates, s', sends⟩ := sendAll_of_open here isOpen messages
  exact ⟨fates, s', sends, fun fates' results s'' net' other => (sends.unique other).1, sends.tally⟩

/-- A peer that does not answer, then a pool that is closed, then a peer that answers the second
attempt: the handlers are told that the sender is down, given the first message, and told that the
sender is up. -/
theorem sendAll_fates_of_outage :
    let answers : List (Except TransportError Unit) :=
      [.error .closed, .error .closed, .error .poolClosed, .error .closed, .ok ()]
    let s : Sender :=
      { name := "a", settings := { transport := { writeRetries := 1 } }, chain := {}, host := "h",
        backlog := { handlers := [.tracing, .null, .custom "b" ⟨[], .error (.closed "b")⟩] },
        link := { target := "peer", outcomes := ⟨answers, .ok ()⟩ } }
    let now : Time.DateTime := ⟨1970, 1, 1, 0, 0, 0, 0, by decide⟩
    let net : Network := { targets := [.sender s], now }
    let m : Message := { facility := .user, severity := .info, body := "x" }
    let messages := [(now, m), (now, m), (now, m)]
    let stamped := { m with timestamp := some now, host := some "h" }
    let cause := TransportError.closed.message
    ∃ fates s', Sends 0 net s messages fates (net.sendAll 0 messages).1 s'
        (net.sendAll 0 messages).2 ∧
      fates = [.failed .closed, .refused .poolClosed, .written] ∧
      s'.counts.sent = 1 ∧ s'.counts.failed = 1 ∧ s'.isDown = false ∧
      (net.sendAll 0 messages).2.notices =
        [.down .log "a" cause, .down (.named "b") "a" cause,
          .undelivered .log "a" stamped cause ⟨["a"]⟩,
          .undelivered (.named "b") "a" stamped cause ⟨["a"]⟩, .up .log "a",
          .up (.named "b") "a"] := by
  intro answers s now net m messages stamped cause
  have fails : Settles s.link.outcomes.answer s.allowed 1 (.failed .closed) :=
    .failed rfl (by simp; exact ⟨_, rfl, nofun⟩) rfl nofun
  have refuses : Settles (fun k => s.link.outcomes.answer (1 + 1 + k)) s.allowed 0
      (.refused .poolClosed) := .refused (by decide) (by simp) rfl .closed
  have writes : Settles (fun k => s.link.outcomes.answer (1 + 1 + (0 + 1 + k))) s.allowed 1
      .written := .written (by decide) (by simp; exact ⟨_, rfl, nofun⟩) rfl
  have decided : ∀ {fates results s' net'},
      Sends 0 net s [(now, m), (now, m), (now, m)] fates results s' net' →
        fates = [.failed .closed, .refused .poolClosed, .written] ∧
        net'.notices =
          [.down .log "a" cause, .down (.named "b") "a" cause,
            .undelivered .log "a" stamped cause ⟨["a"]⟩,
            .undelivered (.named "b") "a" stamped cause ⟨["a"]⟩, .up .log "a",
            .up (.named "b") "a"] := by
    intro fates results s' net' sends
    cases sends with
    | cons first later =>
      obtain ⟨_, settles, limit, answers⟩ := first.settles
      obtain ⟨rfl, rfl⟩ := fails.unique settles
      cases later with
      | cons second later =>
        obtain ⟨_, settles, limit', answers'⟩ := second.settles
        rw [answers, limit] at settles
        obtain ⟨rfl, rfl⟩ := refuses.unique settles
        cases later with
        | cons third later =>
          obtain ⟨_, settles, -⟩ := third.settles
          rw [answers', limit', limit, answers] at settles
          obtain ⟨rfl, rfl⟩ := writes.unique settles
          cases later
          obtain ⟨handed, name, fell, same⟩ := first.notices_of_failed (by decide)
          obtain ⟨kept, name', unchanged⟩ := second.notices_of_refused
          refine ⟨rfl, ?_⟩
          rw [third.notices_of_written, name', unchanged, name, same, if_pos fell]
          exact congrArg (· ++ [.up .log "a", .up (.named "b") "a"]) (kept.trans handed)
  obtain ⟨fates, s', sends, -, sent, failed, -, down⟩ :=
    @sendAll_fates 0 net s rfl rfl messages
  obtain ⟨rfl, told⟩ := decided sends
  exact ⟨_, s', sends, rfl, sent, failed, down, told⟩

end Run

end Syslog
