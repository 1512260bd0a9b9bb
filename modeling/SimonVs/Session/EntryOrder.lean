import SimonVs.Session.Handshake

namespace SimonVs

open Data Serial

/-- The two users confirm their choice; the serial line does the rest. -/
inductive EntryEvent where
  | hostConfirm
  | connectConfirm
  | serial (side : Side) (event : SerialEvent)
deriving DecidableEq, Repr

namespace TwoPc

open MpGame

def entryStep (rounds : Nat) (pcs : TwoPc) : EntryEvent → TwoPc
  | .hostConfirm =>
      if (pcs .host).mode = .mpGame then pcs
      else Function.update pcs .host ((pcs .host).hostConfirm rounds)
  | .connectConfirm =>
      if (pcs .client).mode = .mpGame then pcs
      else Function.update pcs .client (pcs .client).connectConfirm
  | .serial side event => pcs.step (side, event.event)

def inMenu (host client : Machine) : TwoPc
  | .host => host.boot
  | .client => client.boot

/-- The event is not a byte read by the host outside the two-PC game. -/
def Heard (pcs : TwoPc) (event : EntryEvent) : Prop :=
  event = .serial .host .receive → (pcs .client).uart.line ≠ [] → (pcs .host).mode = .mpGame

instance (pcs : TwoPc) (event : EntryEvent) : Decidable (Heard pcs event) :=
  inferInstanceAs (Decidable (_ → _ → _))

variable {pcs : TwoPc} {rounds : Nat} {side : Side} {event : SerialEvent}

theorem step_transEmpty_of_quiet (quiet : (pcs side).uart.Quiet) : pcs.step (side, .transEmpty) = pcs := by
  simp [step, quiet.2.2]

theorem step_shiftOut_of_quiet (quiet : (pcs side).uart.Quiet) : pcs.step (side, .shiftOut) = pcs := by
  have same : (pcs side).uart.shiftOut = (pcs side).uart := by simp [Uart.shiftOut, quiet.1]
  rw [step, same]
  exact Function.update_eq_self side pcs

theorem step_receive_of_line_nil (nothing : (pcs side.other).uart.line = []) :
    pcs.step (side, .receive) = pcs := by
  simp [step, nothing]

theorem step_of_quiet (host : (pcs .host).uart.Quiet) (client : (pcs .client).uart.Quiet) (side : Side)
    (event : SerialEvent) : pcs.step (side, event.event) = pcs := by
  have quiet (side : Side) : (pcs side).uart.Quiet := by
    cases side with
    | host => exact host
    | client => exact client
  cases event with
  | receive => exact step_receive_of_line_nil (quiet side.other).2.1
  | transEmpty => exact step_transEmpty_of_quiet (quiet side)
  | shiftOut => exact step_shiftOut_of_quiet (quiet side)

structure Outside (game : MpGame) : Prop where
  outside : game.mode ≠ .mpGame
  unstarted : game.gameStarted = false
  unsent : game.numRoundSentBytes = 0
  unread : game.receivedNoBytes = 0
  quiet : game.uart.Quiet

theorem outside_boot (machine : Machine) : Outside machine.boot :=
  ⟨nofun, rfl, rfl, rfl, Uart.quiet_idle machine.instant⟩

/-- Where the two programs are, as long as no byte is lost. -/
inductive Entering (rounds : Nat) (pcs : TwoPc) : Prop where
  | apart (host : Outside (pcs .host)) (client : Outside (pcs .client))
  | hostFirst (host : (pcs .host).Hosting rounds) (client : Outside (pcs .client))
  | clientFirst (host : Outside (pcs .host)) (client : (pcs .client).Connecting)
      (calling : (pcs .client).uart.inFlight = [Coms.connected.toByte])
  | shaking (shaking : Shaking rounds (pcs .host) (pcs .client))

/-- The host has missed its client, and neither will do anything more. -/
structure Missed (rounds : Nat) (pcs : TwoPc) : Prop where
  host : Outside (pcs .host) ∨ (pcs .host).Hosting rounds
  client : (pcs .client).Connecting
  silent : (pcs .client).uart.inFlight = []

theorem connecting_step (quiet : (pcs .host).uart.Quiet) (connecting : (pcs .client).Connecting)
    (unheard : (side, event) ≠ (.host, .receive)) :
    pcs.step (side, event.event) .host = pcs .host ∧
      (pcs.step (side, event.event) .client).Connecting ∧
      (pcs.step (side, event.event) .client).uart.inFlight = (pcs .client).uart.inFlight := by
  cases side with
  | host =>
      have same : pcs.step (.host, event.event) = pcs := by
        cases event with
        | receive => exact absurd rfl unheard
        | transEmpty => exact step_transEmpty_of_quiet quiet
        | shiftOut => exact step_shiftOut_of_quiet quiet
      rw [same]
      exact ⟨rfl, connecting, rfl⟩
  | client =>
      cases event with
      | receive =>
          have same : pcs.step (.client, .receive) = pcs := step_receive_of_line_nil quiet.2.1
          rw [SerialEvent.event, same]
          exact ⟨rfl, connecting, rfl⟩
      | transEmpty =>
          by_cases raised : (pcs .client).uart.transEmpty = true
          · have unowed : (pcs .client).receivedNoBytes ≠ 2 := by simp [connecting.unread]
            simp only [SerialEvent.event, step, raised, if_true]
            rw [uartNotification_unowed connecting.role connecting.noQueue (.inr unowed)]
            exact ⟨rfl, ⟨connecting.role, connecting.listening, connecting.noQueue, connecting.unstarted,
              connecting.unread⟩, rfl⟩
          · have same : pcs.step (.client, .transEmpty) = pcs := by simp [step, raised]
            rw [SerialEvent.event, same]
            exact ⟨rfl, connecting, rfl⟩
      | shiftOut =>
          refine ⟨rfl, ?_, Uart.inFlight_shiftOut⟩
          exact ⟨connecting.role, connecting.listening, connecting.noQueue, connecting.unstarted, connecting.unread⟩

theorem entering_step (entering : Entering rounds pcs) (event : EntryEvent) (heard : Heard pcs event) :
    Entering rounds (entryStep rounds pcs event) := by
  cases event with
  | hostConfirm =>
      cases entering with
      | apart host client =>
          rw [entryStep, if_neg host.outside]
          exact .hostFirst (hosting_hostConfirm host.quiet host.unsent) client
      | hostFirst host client =>
          rw [entryStep, if_pos host.setUp.listening]
          exact .hostFirst host client
      | clientFirst host client calling =>
          rw [entryStep, if_neg host.outside]
          exact .shaking (Shaking.begin (hosting_hostConfirm host.quiet host.unsent) client calling)
      | shaking shaking =>
          rw [entryStep, if_pos shaking.hosting.listening]
          exact .shaking shaking
  | connectConfirm =>
      cases entering with
      | apart host client =>
          rw [entryStep, if_neg client.outside]
          exact .clientFirst host (connecting_connectConfirm client.unread) (inFlight_connectConfirm client.quiet)
      | hostFirst host client =>
          rw [entryStep, if_neg client.outside]
          exact .shaking (Shaking.begin host (connecting_connectConfirm client.unread)
            (inFlight_connectConfirm client.quiet))
      | clientFirst host client calling =>
          rw [entryStep, if_pos client.listening]
          exact .clientFirst host client calling
      | shaking shaking =>
          rw [entryStep, if_pos shaking.listening]
          exact .shaking shaking
  | serial side event =>
      rw [entryStep]
      cases entering with
      | apart host client =>
          rw [step_of_quiet host.quiet client.quiet]
          exact .apart host client
      | hostFirst host client =>
          rw [step_of_quiet host.quiet client.quiet]
          exact .hostFirst host client
      | clientFirst host client calling =>
          by_cases reads : (side, event) = (.host, .receive)
          · obtain ⟨rfl, rfl⟩ := Prod.mk.inj reads
            have nothing : (pcs .client).uart.line = [] := by
              by_contra some
              exact host.outside (heard rfl some)
            have same : pcs.step (.host, .receive) = pcs := step_receive_of_line_nil nothing
            rw [SerialEvent.event, same]
            exact .clientFirst host client calling
          · obtain ⟨same, connecting, inFlight⟩ := connecting_step host.quiet client reads
            exact .clientFirst (same ▸ host) connecting (inFlight.trans calling)
      | shaking shaking => exact .shaking (serialInvariant_shaking.step shaking side event)

theorem missed_of_unheard (entering : Entering rounds pcs) {event : EntryEvent} (unheard : ¬ Heard pcs event) :
    Missed rounds (entryStep rounds pcs event) := by
  obtain ⟨rfl, some, outside⟩ : event = .serial .host .receive ∧ (pcs .client).uart.line ≠ [] ∧
      (pcs .host).mode ≠ .mpGame := by
    simpa only [Heard, Classical.not_imp] using unheard
  cases entering with
  | apart host client => exact absurd client.quiet.2.1 some
  | hostFirst host client => exact absurd host.setUp.listening outside
  | shaking shaking => exact absurd shaking.hosting.listening outside
  | clientFirst host client calling =>
      obtain ⟨byte, rest, onLine⟩ := List.exists_cons_of_ne_nil some
      have ignored (data : UInt8) (type : IntOrigin) : (pcs .host).uartNotification data type = pcs .host :=
        if_neg outside
      have lost := Uart.inFlight_of_line onLine
      rw [calling] at lost
      have reads : pcs.step (.host, .receive) =
          Function.update
            (Function.update pcs .client
              { pcs .client with uart := { (pcs .client).uart with line := rest } }) .host (pcs .host) := by
        simp only [step, Side.other, onLine, ignored]
      rw [entryStep, SerialEvent.event, reads]
      exact
        { host := .inl host
          client := ⟨client.role, client.listening, client.noQueue, client.unstarted, client.unread⟩
          silent := (List.cons_eq_cons.mp lost).2.symm }

theorem missed_step (missed : Missed rounds pcs) (event : EntryEvent) :
    Missed rounds (entryStep rounds pcs event) := by
  have quiet : (pcs .host).uart.Quiet := by
    rcases missed.host with outside | hosting
    · exact outside.quiet
    · exact hosting.quiet
  cases event with
  | hostConfirm =>
      rcases missed.host with outside | hosting
      · rw [entryStep, if_neg outside.outside]
        exact ⟨.inr (hosting_hostConfirm outside.quiet outside.unsent), missed.client, missed.silent⟩
      · rw [entryStep, if_pos hosting.setUp.listening]
        exact missed
  | connectConfirm =>
      rw [entryStep, if_pos missed.client.listening]
      exact missed
  | serial side event =>
      rw [entryStep]
      by_cases reads : (side, event) = (.host, .receive)
      · obtain ⟨rfl, rfl⟩ := Prod.mk.inj reads
        have nothing : (pcs .client).uart.line = [] := (List.append_eq_nil_iff.mp missed.silent).1
        have same : pcs.step (.host, .receive) = pcs := step_receive_of_line_nil nothing
        rw [SerialEvent.event, same]
        exact missed
      · obtain ⟨same, connecting, inFlight⟩ := connecting_step quiet missed.client reads
        exact ⟨same ▸ missed.host, connecting, inFlight.trans missed.silent⟩

/-- Once both users have confirmed and the line is quiet, both games have started
precisely if the host has not read a byte before its user confirmed. -/
theorem entry_started_iff (host client : Machine) (rounds : Nat) (events : List EntryEvent)
    (confirmed : ∀ side, (Data.run (entryStep rounds) (inMenu host client) events side).mode = .mpGame)
    (quiet : ∀ side, (Data.run (entryStep rounds) (inMenu host client) events side).uart.Quiet) :
    (∀ side, (Data.run (entryStep rounds) (inMenu host client) events side).gameStarted = true) ↔
    Along (entryStep rounds) Heard (inMenu host client) events := by
  have apart : Entering rounds (inMenu host client) := .apart (outside_boot host) (outside_boot client)
  constructor
  · intro started
    by_contra broken
    obtain ⟨before, event, after, split, along, unheard⟩ := first_bad_of_not_along broken
    have entering : Entering rounds (Data.run (entryStep rounds) (inMenu host client) before) :=
      run_invariant (Entering rounds) (fun _ event entering => entering_step entering event) apart along
    have missed : Missed rounds (Data.run (entryStep rounds) (inMenu host client) events) := by
      rw [split, run_append, run_cons]
      exact run_invariant (Missed rounds) (fun _ event missed _ => missed_step missed event)
        (missed_of_unheard entering unheard) along_true
    have unstarted := missed.client.unstarted
    rw [started .client] at unstarted
    contradiction
  · intro along
    have entering : Entering rounds (Data.run (entryStep rounds) (inMenu host client) events) :=
      run_invariant (Entering rounds) (fun _ event entering => entering_step entering event) apart along
    cases entering with
    | apart host client => exact absurd (confirmed .host) host.outside
    | hostFirst host client => exact absurd (confirmed .client) client.outside
    | clientFirst host client calling => exact absurd (confirmed .host) host.outside
    | shaking shaking =>
        obtain ⟨hostStarted, clientStarted⟩ := shaking.started_of_quiet (quiet .host) (quiet .client)
        intro side
        cases side with
        | host => exact hostStarted
        | client => exact clientStarted

/-- The client enters first, and its `CONNECTED` is still on the line when the
host enters. -/
def clientFirst : List EntryEvent :=
  [.connectConfirm, .serial .client .transEmpty, .hostConfirm, .serial .host .receive,
    .serial .host .transEmpty, .serial .host .transEmpty, .serial .client .receive,
    .serial .client .receive, .serial .client .transEmpty, .serial .host .receive]

theorem entry_started_clientFirst :
    (∀ side, (Data.run (entryStep 3) (inMenu someMachine someMachine) clientFirst side).gameStarted = true) ∧
      Along (entryStep 3) Heard (inMenu someMachine someMachine) clientFirst :=
  have heard : Along (entryStep 3) Heard (inMenu someMachine someMachine) clientFirst := by decide
  ⟨(entry_started_iff someMachine someMachine 3 clientFirst (by decide) (by decide)).mpr heard, heard⟩

/-- The client enters first, and its `CONNECTED` arrives before the host enters. -/
def missedEntry : TwoPc :=
  Data.run (entryStep 3) (inMenu someMachine someMachine)
    [.connectConfirm, .serial .host .receive, .serial .client .transEmpty, .hostConfirm]

theorem entry_missed :
    (∀ side, (missedEntry side).mode = .mpGame) ∧ (∀ side, (missedEntry side).uart.Quiet) ∧
      ∀ side, (missedEntry side).gameStarted = false := by
  decide

end TwoPc

end SimonVs
