import Mathlib.Logic.Function.Basic
import SimonVs.Data.Run

namespace SimonVs.Data

/-! # Turn taking over a duplex link

Two peers are joined by two reliable FIFO lines and pass a turn back and
forth: only the active peer sends, and its last message of a turn hands the
turn over. `TurnTaking` lists what a protocol must satisfy one step at a time;
from it, `Playing` (somebody holds the turn, and the other peer, once it has
read what is on the line, is related to the holder) survives every move of the
link until a peer is over.

A ghost state `γ` may follow the moves of the active peer. The relation then
speaks about the ghost too, so that one invariant compares the two peers with
each other and with a third machine that sees neither lines nor turns.
-/

inductive Side where
  | host
  | client
deriving DecidableEq, Repr

def Side.other : Side → Side
  | .host => .client
  | .client => .host

@[simp] theorem Side.other_other (side : Side) : side.other.other = side := by cases side <;> rfl

@[simp] theorem Side.other_ne (side : Side) : side.other ≠ side := by cases side <;> decide

@[simp] theorem Side.ne_other (side : Side) : side ≠ side.other := by cases side <;> decide

theorem Side.eq_or_eq_other (first second : Side) : first = second ∨ first = second.other := by
  cases first <;> cases second <;> decide

instance decidableForallSide (holds : Side → Prop) [∀ side, Decidable (holds side)] :
    Decidable (∀ side, holds side) :=
  decidable_of_iff (holds .host ∧ holds .client)
    ⟨fun both side => by cases side; exacts [both.1, both.2], fun all => ⟨all _, all _⟩⟩

/-- `line side` holds what `side` has sent and the other peer has not read. -/
structure Link (σ μ : Type) where
  peer : Side → σ
  line : Side → List μ

/-- What a peer does with a local event, and with a message. -/
structure Protocol (σ μ ε : Type) where
  act : σ → ε → σ × List μ
  receive : σ → μ → σ

inductive Move (ε : Type) where
  | act (side : Side) (event : ε)
  | deliver (target : Side)
deriving DecidableEq, Repr

variable {σ μ ε γ : Type}

def Link.send (link : Link σ μ) (side : Side) (state : σ) (messages : List μ) : Link σ μ :=
  { peer := Function.update link.peer side state
    line := Function.update link.line side (link.line side ++ messages) }

def Link.take (link : Link σ μ) (target : Side) (state : σ) (rest : List μ) : Link σ μ :=
  { peer := Function.update link.peer target state
    line := Function.update link.line target.other rest }

section Projections

variable (link : Link σ μ) (side : Side) (state : σ) (messages : List μ)

@[simp] theorem Link.send_peer_same : (link.send side state messages).peer side = state := by
  simp [Link.send]

@[simp] theorem Link.send_peer_other :
    (link.send side state messages).peer side.other = link.peer side.other := by
  simp [Link.send]

@[simp] theorem Link.send_line_same :
    (link.send side state messages).line side = link.line side ++ messages := by
  simp [Link.send]

@[simp] theorem Link.send_line_other :
    (link.send side state messages).line side.other = link.line side.other := by
  simp [Link.send]

@[simp] theorem Link.take_peer_same : (link.take side state messages).peer side = state := by
  simp [Link.take]

@[simp] theorem Link.take_peer_other :
    (link.take side state messages).peer side.other = link.peer side.other := by
  simp [Link.take]

@[simp] theorem Link.take_line_same :
    (link.take side state messages).line side = link.line side := by
  simp [Link.take]

@[simp] theorem Link.take_line_other :
    (link.take side state messages).line side.other = messages := by
  simp [Link.take]

@[simp] theorem Link.take_other_peer :
    (link.take side.other state messages).peer side = link.peer side := by
  simpa using link.take_peer_other side.other state messages

@[simp] theorem Link.take_other_line :
    (link.take side.other state messages).line side = messages := by
  simpa using link.take_line_other side.other state messages

theorem Link.send_nil : link.send side (link.peer side) [] = link := by
  simp [Link.send]

end Projections

namespace Protocol

variable (protocol : Protocol σ μ ε)

def step (link : Link σ μ) : Move ε → Link σ μ
  | .act side event =>
      let result := protocol.act (link.peer side) event
      link.send side result.1 result.2
  | .deliver target =>
      match link.line target.other with
      | [] => link
      | message :: rest => link.take target (protocol.receive (link.peer target) message) rest

/-- A peer after it has read all the messages. -/
def drain (state : σ) (messages : List μ) : σ := messages.foldl protocol.receive state

@[simp] theorem drain_nil (state : σ) : protocol.drain state [] = state := rfl

@[simp] theorem drain_cons (state : σ) (message : μ) (rest : List μ) :
    protocol.drain state (message :: rest) = protocol.drain (protocol.receive state message) rest := rfl

@[simp] theorem drain_append (state : σ) (first second : List μ) :
    protocol.drain state (first ++ second) = protocol.drain (protocol.drain state first) second := by
  simp [drain]

end Protocol

/-- The messages of a turn that has been handed over. -/
def EndsInTurn (Turn : μ → Prop) (messages : List μ) : Prop :=
  ∃ before last, messages = before ++ [last] ∧ (∀ message ∈ before, ¬ Turn message) ∧ Turn last

section EndsInTurn

variable {Turn : μ → Prop} {message : μ} {first second rest : List μ}

theorem EndsInTurn.append (plain : ∀ message ∈ first, ¬ Turn message)
    (ends : EndsInTurn Turn second) : EndsInTurn Turn (first ++ second) := by
  obtain ⟨before, last, rfl, plainBefore, turn⟩ := ends
  refine ⟨first ++ before, last, by simp, ?_, turn⟩
  intro message member
  rcases List.mem_append.mp member with inFirst | inBefore
  · exact plain message inFirst
  · exact plainBefore message inBefore

theorem EndsInTurn.tail (ends : EndsInTurn Turn (message :: rest)) (plain : ¬ Turn message) :
    EndsInTurn Turn rest := by
  obtain ⟨before, last, split, plainBefore, turn⟩ := ends
  cases before with
  | nil =>
      simp only [List.nil_append, List.cons.injEq] at split
      exact absurd (split.1 ▸ turn) plain
  | cons first before =>
      simp only [List.cons_append, List.cons.injEq] at split
      exact ⟨before, last, split.2, fun m member => plainBefore m (by simp [member]), turn⟩

theorem EndsInTurn.rest_nil (ends : EndsInTurn Turn (message :: rest)) (turn : Turn message) :
    rest = [] := by
  obtain ⟨before, last, split, plainBefore, _⟩ := ends
  cases before with
  | nil =>
      simp only [List.nil_append, List.cons.injEq] at split
      exact split.2
  | cons first before =>
      simp only [List.cons_append, List.cons.injEq] at split
      exact absurd turn (split.1 ▸ plainBefore first (by simp))

theorem EndsInTurn.not_plain (ends : EndsInTurn Turn first) : ¬ ∀ message ∈ first, ¬ Turn message := by
  obtain ⟨before, last, rfl, _, turn⟩ := ends
  intro plain
  exact plain last (by simp) turn

end EndsInTurn

/-- One-step obligations of a turn-taking protocol. -/
structure TurnTaking (protocol : Protocol σ μ ε) (Active Over : σ → Prop) (Turn : μ → Prop) : Prop where
  activeAlive : ∀ {state}, Active state → ¬ Over state
  -- without the turn a local event changes and sends nothing
  idle : ∀ {state} event, ¬ Active state → protocol.act state event = (state, [])
  keepsOrPasses : ∀ {state} event, Active state → ¬ Over (protocol.act state event).1 →
    (Active (protocol.act state event).1 ∧ ∀ message ∈ (protocol.act state event).2, ¬ Turn message) ∨
    (¬ Active (protocol.act state event).1 ∧ EndsInTurn Turn (protocol.act state event).2)
  waits : ∀ {state message}, ¬ Active state → ¬ Turn message → ¬ Active (protocol.receive state message)
  takes : ∀ {state message}, ¬ Active state → ¬ Over state → Turn message →
    Active (protocol.receive state message)
  overStays : ∀ {state} message, Over state → Over (protocol.receive state message)

/-- `side` holds the turn, or has handed it over with the last message on its
line. `Related` compares it with the other peer after that line is read. -/
structure Holds (protocol : Protocol σ μ ε) (Active Over : σ → Prop) (Turn : μ → Prop)
    (Related : σ → σ → Prop) (link : Link σ μ) (side : Side) : Prop where
  silent : link.line side.other = []
  waiting : ¬ Active (link.peer side.other)
  holderAlive : ¬ Over (link.peer side)
  otherAlive : ¬ Over (link.peer side.other)
  turn : (Active (link.peer side) ∧ ∀ message ∈ link.line side, ¬ Turn message) ∨
    (¬ Active (link.peer side) ∧ EndsInTurn Turn (link.line side))
  related : Related (link.peer side) (protocol.drain (link.peer side.other) (link.line side))

def Playing (protocol : Protocol σ μ ε) (Active Over : σ → Prop) (Turn : μ → Prop)
    (Related : σ → σ → Prop) (link : Link σ μ) : Prop :=
  ∃ side, Holds protocol Active Over Turn Related link side

variable {protocol : Protocol σ μ ε} {Active Over : σ → Prop} {Turn : μ → Prop}
  {Related Next : σ → σ → Prop} {link : Link σ μ} {side target : Side} {event : ε}

theorem Holds.active_other (holds : Holds protocol Active Over Turn Related link side)
    (active : Active (link.peer target)) : target = side ∧ ∀ message ∈ link.line side, ¬ Turn message := by
  rcases target.eq_or_eq_other side with rfl | rfl
  · rcases holds.turn with ⟨_, plain⟩ | ⟨inactive, _⟩
    · exact ⟨rfl, plain⟩
    · exact absurd active inactive
  · exact absurd active holds.waiting

namespace TurnTaking

variable (rules : TurnTaking protocol Active Over Turn)
include rules

theorem drain_over {state : σ} (messages : List μ) (isOver : Over state) :
    Over (protocol.drain state messages) := by
  induction messages generalizing state with
  | nil => exact isOver
  | cons message rest ih => exact ih (rules.overStays message isOver)

theorem step_act_idle (inactive : ¬ Active (link.peer side)) :
    protocol.step link (.act side event) = link := by
  simp only [Protocol.step, rules.idle event inactive]
  exact link.send_nil side

theorem holds_act (holds : Holds protocol Active Over Turn Related link side)
    (active : Active (link.peer side)) (alive : ¬ Over (protocol.act (link.peer side) event).1)
    (follows : ∀ reader, Related (link.peer side) reader →
      Next (protocol.act (link.peer side) event).1
        (protocol.drain reader (protocol.act (link.peer side) event).2)) :
    Holds protocol Active Over Turn Next (protocol.step link (.act side event)) side := by
  have plain := (holds.active_other active).2
  refine
    { silent := by simpa [Protocol.step] using holds.silent
      waiting := by simpa [Protocol.step] using holds.waiting
      holderAlive := by simpa [Protocol.step] using alive
      otherAlive := by simpa [Protocol.step] using holds.otherAlive
      turn := ?_
      related := by simpa [Protocol.step] using follows _ holds.related }
  rcases rules.keepsOrPasses event active alive with ⟨still, sent⟩ | ⟨passed, sent⟩
  · left
    refine ⟨by simpa [Protocol.step] using still, fun message member => ?_⟩
    simp only [Protocol.step, Link.send_line_same, List.mem_append] at member
    rcases member with old | new
    · exact plain message old
    · exact sent message new
  · right
    refine ⟨by simpa [Protocol.step] using passed, ?_⟩
    simpa [Protocol.step] using sent.append plain

section Read

variable {message : μ} {rest : List μ}

/-- The message that hands the turn over is the last one on the line. -/
theorem holds_taken (holds : Holds protocol Active Over Turn Related link side)
    (swap : ∀ {giver taker}, ¬ Active giver → Active taker → Related giver taker → Related taker giver)
    (onLine : link.line side = message :: rest) (turn : Turn message)
    (alive : ¬ Over (protocol.receive (link.peer side.other) message)) :
    Holds protocol Active Over Turn Related
      (link.take side.other (protocol.receive (link.peer side.other) message) rest) side.other := by
  have passed : ¬ Active (link.peer side) := by
    intro active
    have plain := (holds.active_other active).2
    exact plain message (by simp [onLine]) turn
  have ends : EndsInTurn Turn (message :: rest) := by
    rcases holds.turn with ⟨active, _⟩ | ⟨_, ends⟩
    · exact absurd active passed
    · rwa [onLine] at ends
  have last := ends.rest_nil turn
  subst last
  have taken := rules.takes holds.waiting holds.otherAlive turn
  have related := holds.related
  rw [onLine, Protocol.drain_cons] at related
  refine
    { silent := by simp
      waiting := by simpa using passed
      holderAlive := by simpa using alive
      otherAlive := by simpa using holds.holderAlive
      turn := .inl ⟨by simpa using taken, by simp [holds.silent]⟩
      related := ?_ }
  simp only [Link.take_peer_same, Link.take_line_same, holds.silent, Protocol.drain_nil, Side.other_other,
    Link.take_other_peer]
  exact swap passed taken related

theorem holds_read (holds : Holds protocol Active Over Turn Related link side)
    (onLine : link.line side = message :: rest) (plain : ¬ Turn message)
    (alive : ¬ Over (protocol.receive (link.peer side.other) message)) :
    Holds protocol Active Over Turn Related
      (link.take side.other (protocol.receive (link.peer side.other) message) rest) side := by
  have related := holds.related
  rw [onLine, Protocol.drain_cons] at related
  refine
    { silent := by simpa using holds.silent
      waiting := by simpa using rules.waits holds.waiting plain
      holderAlive := by simpa using holds.holderAlive
      otherAlive := by simpa using alive
      turn := ?_
      related := by simpa using related }
  rw [Link.take_other_peer, Link.take_other_line]
  rcases holds.turn with ⟨active, others⟩ | ⟨inactive, ends⟩
  · exact .inl ⟨active, fun m member => others m (by simp [onLine, member])⟩
  · exact .inr ⟨inactive, EndsInTurn.tail (onLine ▸ ends) plain⟩

end Read

theorem playing_deliver (holds : Holds protocol Active Over Turn Related link side)
    (swap : ∀ {giver taker}, ¬ Active giver → Active taker → Related giver taker → Related taker giver)
    (target : Side) :
    Playing protocol Active Over Turn Related (protocol.step link (.deliver target)) ∨
      Over ((protocol.step link (.deliver target)).peer target) := by
  rcases target.eq_or_eq_other side with rfl | rfl
  · -- nothing is on its way to the holder
    have same : protocol.step link (.deliver target) = link := by simp [Protocol.step, holds.silent]
    rw [same]
    exact .inl ⟨target, holds⟩
  · cases onLine : link.line side with
    | nil =>
        have same : protocol.step link (.deliver side.other) = link := by simp [Protocol.step, onLine]
        rw [same]
        exact .inl ⟨side, holds⟩
    | cons message rest =>
        have next : protocol.step link (.deliver side.other) =
            link.take side.other (protocol.receive (link.peer side.other) message) rest := by
          simp [Protocol.step, onLine]
        rw [next]
        by_cases isOver : Over (protocol.receive (link.peer side.other) message)
        · exact .inr (by simpa using isOver)
        · left
          by_cases turn : Turn message
          · exact ⟨side.other, rules.holds_taken holds swap onLine turn isOver⟩
          · exact ⟨side, rules.holds_read holds onLine turn isOver⟩

/-- One move: the turn is still somewhere, or a peer is over. Only a move of the
active peer may change the relation. -/
theorem playing_step (playing : Playing protocol Active Over Turn Related link) (move : Move ε)
    (rests : (∀ side event, move = .act side event → ¬ Active (link.peer side)) → Next = Related)
    (swap : ∀ {giver taker}, ¬ Active giver → Active taker → Related giver taker → Related taker giver)
    (follows : ∀ side event, move = .act side event → Active (link.peer side) →
      ¬ Over (protocol.act (link.peer side) event).1 → ∀ reader, Related (link.peer side) reader →
      Next (protocol.act (link.peer side) event).1
        (protocol.drain reader (protocol.act (link.peer side) event).2)) :
    Playing protocol Active Over Turn Next (protocol.step link move) ∨
      ∃ side, Over ((protocol.step link move).peer side) := by
  obtain ⟨holder, holds⟩ := playing
  cases move with
  | act side event =>
      by_cases active : Active (link.peer side)
      · obtain ⟨rfl, _⟩ := holds.active_other active
        by_cases isOver : Over (protocol.act (link.peer side) event).1
        · exact .inr ⟨side, by simpa [Protocol.step] using isOver⟩
        · exact .inl ⟨side, rules.holds_act holds active isOver (follows side event rfl active isOver)⟩
      · have inactive : ∀ place occurs, Move.act side event = Move.act place occurs →
            ¬ Active (link.peer place) := by
          intro place occurs same
          cases same
          exact active
        rw [rules.step_act_idle active, rests inactive]
        exact .inl ⟨holder, holds⟩
  | deliver target =>
      rw [rests (by simp)]
      rcases rules.playing_deliver holds swap target with playing | isOver
      · exact .inl playing
      · exact .inr ⟨target, isOver⟩

end TurnTaking

structure Closing (protocol : Protocol σ μ ε) (Active Over : σ → Prop) (Turn : μ → Prop)
    (Outcome : σ → σ → Prop) (link : Link σ μ) (side : Side) : Prop where
  silent : link.line side.other = []
  isOver : Over (link.peer side)
  waiting : ¬ Active (link.peer side.other)
  plain : ∀ message ∈ link.line side, ¬ Turn message
  unread : ∀ first later, link.line side = first ++ later → later ≠ [] →
    ¬ Over (protocol.drain (link.peer side.other) first)
  outcome : Outcome (link.peer side) (protocol.drain (link.peer side.other) (link.line side))

variable {Outcome : σ → σ → Prop}

namespace TurnTaking

variable (rules : TurnTaking protocol Active Over Turn)
include rules

theorem closing_deliver (closing : Closing protocol Active Over Turn Outcome link side) (target : Side) :
    Closing protocol Active Over Turn Outcome (protocol.step link (.deliver target)) side := by
  rcases target.eq_or_eq_other side with rfl | rfl
  · have same : protocol.step link (.deliver target) = link := by simp [Protocol.step, closing.silent]
    rw [same]
    exact closing
  · cases onLine : link.line side with
    | nil =>
        have same : protocol.step link (.deliver side.other) = link := by simp [Protocol.step, onLine]
        rw [same]
        exact closing
    | cons message rest =>
        have next : protocol.step link (.deliver side.other) =
            link.take side.other (protocol.receive (link.peer side.other) message) rest := by
          simp [Protocol.step, onLine]
        have notTurn : ¬ Turn message := closing.plain message (by simp [onLine])
        have outcome := closing.outcome
        rw [onLine, Protocol.drain_cons] at outcome
        rw [next]
        refine
          { silent := by simpa using closing.silent
            isOver := by simpa using closing.isOver
            waiting := by simpa using rules.waits closing.waiting notTurn
            plain := ?_
            unread := ?_
            outcome := by simpa using outcome }
        · intro other member
          rw [Link.take_other_line] at member
          exact closing.plain other (by simp [onLine, member])
        · intro first later split nonempty
          rw [Link.take_other_line] at split
          rw [Link.take_peer_same]
          exact closing.unread (message :: first) later (by simp [onLine, split]) nonempty

theorem closing_step (closing : Closing protocol Active Over Turn Outcome link side) (move : Move ε) :
    Closing protocol Active Over Turn Outcome (protocol.step link move) side := by
  cases move with
  | act place event =>
      have inactive : ¬ Active (link.peer place) := by
        rcases place.eq_or_eq_other side with rfl | rfl
        · exact fun active => rules.activeAlive active closing.isOver
        · exact closing.waiting
      rw [rules.step_act_idle inactive]
      exact closing
  | deliver target => exact rules.closing_deliver closing target

theorem alive_of_drain {state : σ} {first later : List μ}
    (alive : ¬ Over (protocol.drain state (first ++ later))) : ¬ Over (protocol.drain state first) := by
  intro isOver
  rw [Protocol.drain_append] at alive
  exact alive (rules.drain_over later isOver)

theorem closing_act (holds : Holds protocol Active Over Turn Related link side)
    (active : Active (link.peer side)) (isOver : Over (protocol.act (link.peer side) event).1)
    (alive : ∀ {reader}, Related (link.peer side) reader → ¬ Over reader)
    {last : μ} (sent : (protocol.act (link.peer side) event).2 = [last]) (notTurn : ¬ Turn last)
    (outcome : ∀ reader, Related (link.peer side) reader →
      Outcome (protocol.act (link.peer side) event).1 (protocol.receive reader last)) :
    Closing protocol Active Over Turn Outcome (protocol.step link (.act side event)) side := by
  have plain := (holds.active_other active).2
  have line : (protocol.step link (.act side event)).line side = link.line side ++ [last] := by
    simp [Protocol.step, sent]
  have reader : (protocol.step link (.act side event)).peer side.other = link.peer side.other := by
    simp [Protocol.step]
  refine
    { silent := by simpa [Protocol.step] using holds.silent
      isOver := by simpa [Protocol.step] using isOver
      waiting := by simpa [Protocol.step] using holds.waiting
      plain := ?_
      unread := ?_
      outcome := ?_ }
  · intro message member
    rw [line, List.mem_append] at member
    rcases member with old | new
    · exact plain message old
    · rw [List.mem_singleton.mp new]
      exact notTurn
  · intro first later split nonempty
    rw [reader]
    rw [line] at split
    obtain ⟨final, rfl⟩ : ∃ final, later = final ++ [last] := by
      rcases List.eq_nil_or_concat later with empty | ⟨front, final, same⟩
      · exact absurd empty nonempty
      · rw [List.concat_eq_append] at same
        rw [same, ← List.append_assoc] at split
        have ends := List.append_inj_right' split rfl
        exact ⟨front, by rw [same, ends]⟩
    rw [← List.append_assoc] at split
    have whole := List.append_inj_left' split rfl
    apply rules.alive_of_drain
    rw [← whole]
    exact alive holds.related
  · rw [line, reader, Protocol.drain_append]
    simpa [Protocol.step] using outcome _ holds.related

theorem playing_deliver_alive (holds : Holds protocol Active Over Turn Related link side)
    (swap : ∀ {giver taker}, ¬ Active giver → Active taker → Related giver taker → Related taker giver)
    (alive : ∀ {reader}, Related (link.peer side) reader → ¬ Over reader) (target : Side) :
    Playing protocol Active Over Turn Related (protocol.step link (.deliver target)) := by
  rcases rules.playing_deliver holds swap target with playing | isOver
  · exact playing
  · exfalso
    rcases target.eq_or_eq_other side with rfl | rfl
    · have same : protocol.step link (.deliver target) = link := by simp [Protocol.step, holds.silent]
      rw [same] at isOver
      exact holds.holderAlive isOver
    · cases onLine : link.line side with
      | nil =>
          have same : protocol.step link (.deliver side.other) = link := by simp [Protocol.step, onLine]
          rw [same] at isOver
          exact holds.otherAlive isOver
      | cons message rest =>
          have related := holds.related
          rw [onLine, Protocol.drain_cons] at related
          have next : (protocol.step link (.deliver side.other)).peer side.other =
              protocol.receive (link.peer side.other) message := by
            simp [Protocol.step, onLine]
          rw [next] at isOver
          exact alive related (rules.drain_over rest isOver)

/-- One move of a game that is being played: it goes on, or it closes with one
last message of the holder. Only a move of the active peer may change the
relation. -/
theorem playing_or_closing_step (playing : Playing protocol Active Over Turn Related link) (move : Move ε)
    (rests : (∀ side event, move = .act side event → ¬ Active (link.peer side)) → Next = Related)
    (swap : ∀ {giver taker}, ¬ Active giver → Active taker → Related giver taker → Related taker giver)
    (alive : ∀ {holder reader}, ¬ Over holder → Related holder reader → ¬ Over reader)
    (follows : ∀ side event, move = .act side event → Active (link.peer side) →
      ¬ Over (protocol.act (link.peer side) event).1 → ∀ reader, Related (link.peer side) reader →
      Next (protocol.act (link.peer side) event).1
        (protocol.drain reader (protocol.act (link.peer side) event).2))
    (ends : ∀ side event, move = .act side event → Active (link.peer side) →
      Over (protocol.act (link.peer side) event).1 →
      ∃ last, (protocol.act (link.peer side) event).2 = [last] ∧ ¬ Turn last ∧
        ∀ reader, Related (link.peer side) reader →
          Outcome (protocol.act (link.peer side) event).1 (protocol.receive reader last)) :
    Playing protocol Active Over Turn Next (protocol.step link move) ∨
      ∃ side, Closing protocol Active Over Turn Outcome (protocol.step link move) side ∧
        ¬ Over ((protocol.step link move).peer side.other) := by
  obtain ⟨holder, holds⟩ := playing
  cases move with
  | act side event =>
      by_cases active : Active (link.peer side)
      · obtain ⟨rfl, _⟩ := holds.active_other active
        by_cases isOver : Over (protocol.act (link.peer side) event).1
        · obtain ⟨last, sent, notTurn, outcome⟩ := ends side event rfl active isOver
          refine .inr ⟨side, rules.closing_act holds active isOver
            (fun related => alive holds.holderAlive related) sent notTurn outcome, ?_⟩
          simpa [Protocol.step] using holds.otherAlive
        · exact .inl ⟨side, rules.holds_act holds active isOver (follows side event rfl active isOver)⟩
      · have inactive : ∀ place occurs, Move.act side event = Move.act place occurs →
            ¬ Active (link.peer place) := by
          intro place occurs same
          cases same
          exact active
        rw [rules.step_act_idle active, rests inactive]
        exact .inl ⟨holder, holds⟩
  | deliver target =>
      rw [rests (by simp)]
      exact .inl (rules.playing_deliver_alive holds swap (fun related => alive holds.holderAlive related) target)

end TurnTaking

end SimonVs.Data
