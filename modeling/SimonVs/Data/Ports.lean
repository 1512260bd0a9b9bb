import Mathlib.Logic.Function.Iterate

namespace SimonVs.Data

variable {α β δ ω σ : Type}

inductive PortIo (α : Type) where
  | done (result : α)
  | outb (port : Nat) (value : UInt8) (next : PortIo α)
  | inb (port : Nat) (next : UInt8 → PortIo α)

namespace PortIo

def bind : PortIo α → (α → PortIo β) → PortIo β
  | done result, after => after result
  | outb port value next, after => outb port value (next.bind after)
  | inb port next, after => inb port fun byte => (next byte).bind after

instance : Monad PortIo where
  pure := done
  bind := bind

def sysOutb (port : Nat) (value : UInt8) : PortIo Unit := outb port value (done ())

def sysInb (port : Nat) : PortIo UInt8 := inb port done

/-- One turn of a loop gives the state of the next turn or the result. -/
def resume (body : σ → PortIo (σ ⊕ α)) : PortIo (σ ⊕ α) → PortIo (σ ⊕ α)
  | done (.inl state) => body state
  | program => program

end PortIo

/-- How a device answers. `ω` is what the environment chooses for one read. -/
structure Bus (δ ω : Type) where
  out : δ → Nat → UInt8 → δ
  inp : δ → Nat → ω → UInt8 × δ

variable {bus : Bus δ ω} {device : δ} {choice : ω}

namespace PortIo

/-- The next port access. -/
def advance (bus : Bus δ ω) (device : δ) (choice : ω) : PortIo α → PortIo α × δ
  | done result => (done result, device)
  | outb port value next => (next, bus.out device port value)
  | inb port next => (next (bus.inp device port choice).1, (bus.inp device port choice).2)

/-- What has to hold now for `post` to hold at the result, if between two accesses the
device may move by `rely`, any number of times. -/
def wp (bus : Bus δ ω) (rely : δ → δ → Prop) : PortIo α → (α → δ → Prop) → δ → Prop
  | done result, post, device => post result device
  | outb port value next, post, device =>
      ∀ moved, rely device moved → next.wp bus rely post (bus.out moved port value)
  | inb port next, post, device =>
      ∀ moved choice, rely device moved →
        (next (bus.inp moved port choice).1).wp bus rely post (bus.inp moved port choice).2

variable {rely : δ → δ → Prop} {program : PortIo α} {post : α → δ → Prop}

@[simp] theorem wp_bind {after : α → PortIo β} {post : β → δ → Prop} :
    (program >>= after).wp bus rely post device ↔
      program.wp bus rely (fun result device => (after result).wp bus rely post device) device := by
  induction program generalizing device with
  | done result => exact Iff.rfl
  | outb port value next ih => exact forall_congr' fun moved => imp_congr_right fun _ => ih
  | inb port next ih =>
      exact forall_congr' fun moved => forall_congr' fun choice => imp_congr_right fun _ => ih _

@[simp] theorem wp_pure {result : α} : (pure result : PortIo α).wp bus rely post device ↔ post result device := Iff.rfl

@[simp] theorem wp_sysOutb {port : Nat} {value : UInt8} {post : Unit → δ → Prop} :
    (sysOutb port value).wp bus rely post device ↔
      ∀ moved, rely device moved → post () (bus.out moved port value) := Iff.rfl

@[simp] theorem wp_sysInb {port : Nat} {post : UInt8 → δ → Prop} :
    (sysInb port).wp bus rely post device ↔
      ∀ moved choice, rely device moved → post (bus.inp moved port choice).1 (bus.inp moved port choice).2 := Iff.rfl

theorem wp_mono {stronger : α → δ → Prop} (holds : program.wp bus rely stronger device)
    (weaker : ∀ result device, stronger result device → post result device) :
    program.wp bus rely post device := by
  induction program generalizing device with
  | done result => exact weaker result device holds
  | outb port value next ih => exact fun moved moves => ih (holds moved moves)
  | inb port next ih => exact fun moved choice moves => ih _ (holds moved choice moves)

theorem wp_rely (trans : ∀ a b c, rely a b → rely b c → rely a c)
    (stable : ∀ result a b, rely a b → post result a → post result b) {moved : δ}
    (moves : rely device moved) (holds : program.wp bus rely post device) : program.wp bus rely post moved := by
  cases program with
  | done result => exact stable result _ _ moves holds
  | outb port value next => exact fun later further => holds later (trans _ _ _ moves further)
  | inb port next => exact fun later choice further => holds later choice (trans _ _ _ moves further)

theorem wp_advance (refl : ∀ a, rely a a) (holds : program.wp bus rely post device) :
    (program.advance bus device choice).1.wp bus rely post (program.advance bus device choice).2 := by
  cases program with
  | done result => exact holds
  | outb port value next => exact holds device (refl device)
  | inb port next => exact holds device choice (refl device)

theorem wp_resume {body : σ → PortIo (σ ⊕ α)} {program : PortIo (σ ⊕ α)} {post : σ ⊕ α → δ → Prop}
    (again : ∀ state device, post (.inl state) device → (body state).wp bus rely post device)
    (holds : program.wp bus rely post device) : (program.resume body).wp bus rely post device := by
  cases program with
  | done result =>
      cases result with
      | inl state => exact again state device holds
      | inr result => exact holds
  | outb port value next => exact holds
  | inb port next => exact holds

/-- Whatever is read, the program ends after at most so many accesses. -/
def Within : PortIo α → Nat → Prop
  | done _, _ => True
  | outb _ _ next, limit => 0 < limit ∧ next.Within (limit - 1)
  | inb _ next, limit => 0 < limit ∧ ∀ byte, (next byte).Within (limit - 1)

theorem within_pure (result : α) : (pure result : PortIo α).Within 0 := trivial

theorem within_sysInb (port : Nat) : (sysInb port).Within 1 := ⟨Nat.one_pos, fun _ => trivial⟩

theorem within_sysOutb (port : Nat) (value : UInt8) : (sysOutb port value).Within 1 := ⟨Nat.one_pos, trivial⟩

theorem Within.mono {limit more : Nat} (within : program.Within limit) (le : limit ≤ more) : program.Within more := by
  induction program generalizing limit more with
  | done result => trivial
  | outb port value next ih => exact ⟨Nat.lt_of_lt_of_le within.1 le, ih within.2 (Nat.sub_le_sub_right le 1)⟩
  | inb port next ih =>
      exact ⟨Nat.lt_of_lt_of_le within.1 le, fun byte => ih byte (within.2 byte) (Nat.sub_le_sub_right le 1)⟩

theorem Within.bind {after : α → PortIo β} {limit more : Nat} (within : program.Within limit)
    (rest : ∀ result, (after result).Within more) : (program >>= after).Within (limit + more) := by
  induction program generalizing limit with
  | done result => exact (rest result).mono (Nat.le_add_left more limit)
  | outb port value next ih =>
      have fewer : limit + more - 1 = limit - 1 + more := Nat.sub_add_comm within.1
      refine ⟨Nat.add_pos_left within.1 more, ?_⟩
      rw [fewer]
      exact ih within.2
  | inb port next ih =>
      have fewer : limit + more - 1 = limit - 1 + more := Nat.sub_add_comm within.1
      refine ⟨Nat.add_pos_left within.1 more, fun byte => ?_⟩
      rw [fewer]
      exact ih byte (within.2 byte)

end PortIo

/-- A loop that stands before the next access of `program`. -/
structure Call (δ σ α : Type) where
  device : δ
  program : PortIo (σ ⊕ α)

namespace Call

variable {body : σ → PortIo (σ ⊕ α)} {call : Call δ σ α} {result : α} {state : σ}

def result? (call : Call δ σ α) : Option α :=
  match call.program with
  | .done (.inr result) => some result
  | _ => none

def access (bus : Bus δ ω) (body : σ → PortIo (σ ⊕ α)) (call : Call δ σ α) (choice : ω) : Call δ σ α :=
  let next := call.program.advance bus call.device choice
  { device := next.2, program := next.1.resume body }

end Call

section Alone

variable {bus : Bus δ Unit} {body : σ → PortIo (σ ⊕ α)} {state : σ} {result : α} {after : δ}

def PortIo.exec (bus : Bus δ Unit) : PortIo α → δ → α × δ
  | done result, device => (result, device)
  | outb port value next, device => next.exec bus (bus.out device port value)
  | inb port next, device => (next (bus.inp device port ()).1).exec bus (bus.inp device port ()).2

@[simp] theorem PortIo.exec_pure : (pure result : PortIo α).exec bus device = (result, device) := rfl

@[simp] theorem PortIo.exec_bind {program : PortIo α} {next : α → PortIo β} :
    (program >>= next).exec bus device = (next (program.exec bus device).1).exec bus (program.exec bus device).2 := by
  induction program generalizing device with
  | done result => rfl
  | outb port value rest ih => exact ih
  | inb port rest ih => exact ih _

@[simp] theorem PortIo.exec_sysOutb {port : Nat} {value : UInt8} :
    (sysOutb port value).exec bus device = ((), bus.out device port value) := rfl

@[simp] theorem PortIo.exec_sysInb {port : Nat} : (sysInb port).exec bus device = bus.inp device port () := rfl

def Call.alone (bus : Bus δ Unit) (body : σ → PortIo (σ ⊕ α)) (count : Nat) (call : Call δ σ α) : Call δ σ α :=
  (fun call => call.access bus body ())^[count] call

/-- The result of a loop within a number of turns. -/
def turns (bus : Bus δ Unit) (body : σ → PortIo (σ ⊕ α)) : Nat → σ → δ → Option (α × δ)
  | 0, _, _ => none
  | count + 1, state, device =>
      match (body state).exec bus device with
      | (.inl next, device) => turns bus body count next device
      | (.inr result, device) => some (result, device)

theorem Call.alone_add {call : Call δ σ α} {n m : Nat} :
    call.alone bus body (n + m) = (call.alone bus body m).alone bus body n :=
  Function.iterate_add_apply _ n m call

theorem Call.alone_finished {count : Nat} :
    (⟨device, .done (.inr result)⟩ : Call δ σ α).alone bus body count = ⟨device, .done (.inr result)⟩ :=
  Function.iterate_fixed rfl count

theorem Call.alone_resume {program : PortIo (σ ⊕ α)}
    (reached : ∃ count, (⟨device, program⟩ : Call δ σ α).alone bus body (count + 1) =
      ⟨(program.exec bus device).2, (PortIo.done (program.exec bus device).1).resume body⟩) :
    ∃ count, (⟨device, program.resume body⟩ : Call δ σ α).alone bus body count =
      ⟨(program.exec bus device).2, (PortIo.done (program.exec bus device).1).resume body⟩ := by
  obtain ⟨count, reached⟩ := reached
  cases program with
  | done result => exact ⟨0, rfl⟩
  | outb port value next => exact ⟨count + 1, reached⟩
  | inb port next => exact ⟨count + 1, reached⟩

/-- A turn takes finitely many accesses. -/
theorem Call.alone_turn (program : PortIo (σ ⊕ α)) (device : δ) :
    ∃ count, (⟨device, program⟩ : Call δ σ α).alone bus body (count + 1) =
      ⟨(program.exec bus device).2, (PortIo.done (program.exec bus device).1).resume body⟩ := by
  induction program generalizing device with
  | done result => exact ⟨0, rfl⟩
  | outb port value next ih => exact alone_resume (ih (bus.out device port value))
  | inb port next ih => exact alone_resume (ih _ (bus.inp device port ()).2)

theorem Call.turns_of_returned {count : Nat}
    (returned : (⟨device, body state⟩ : Call δ σ α).alone bus body count = ⟨after, .done (.inr result)⟩) :
    ∃ count, turns bus body count state device = some (result, after) := by
  induction count using Nat.strongRecOn generalizing state device with
  | _ count ih =>
      obtain ⟨used, reached⟩ := @alone_turn _ _ _ bus body (body state) device
      -- whichever of the two is reached first, the other lies behind it
      cases turn : (body state).exec bus device with
      | mk outcome device' =>
          rw [turn] at reached
          rcases Nat.le_total (used + 1) count with enough | early
          · obtain ⟨rest, rfl⟩ := Nat.exists_eq_add_of_le' enough
            rw [alone_add, reached] at returned
            cases outcome with
            | inl next =>
                obtain ⟨more, returned⟩ := ih rest (by omega) returned
                exact ⟨more + 1, by simp only [turns, turn, returned]⟩
            | inr result' =>
                have same := returned.symm.trans alone_finished
                cases same
                exact ⟨1, by simp only [turns, turn]⟩
          · obtain ⟨rest, more⟩ := Nat.exists_eq_add_of_le' early
            rw [more, alone_add, returned, alone_finished] at reached
            cases outcome with
            | inl next =>
                obtain ⟨rfl, done⟩ := Call.mk.inj reached
                have done : body next = .done (.inr result) := done.symm
                exact ⟨2, by simp only [turns, turn, done, PortIo.exec]⟩
            | inr result' =>
                cases reached
                exact ⟨1, by simp only [turns, turn]⟩

theorem Call.returned_of_turns {count : Nat} (returned : turns bus body count state device = some (result, after)) :
    ∃ count, (⟨device, body state⟩ : Call δ σ α).alone bus body count = ⟨after, .done (.inr result)⟩ := by
  induction count generalizing state device with
  | zero => cases returned
  | succ count ih =>
      obtain ⟨used, reached⟩ := @alone_turn _ _ _ bus body (body state) device
      simp only [turns] at returned
      split at returned
      · next next device' turn =>
          rw [turn] at reached
          obtain ⟨more, returned⟩ := ih returned
          refine ⟨more + (used + 1), ?_⟩
          rw [alone_add, reached]
          exact returned
      · next result' device' turn =>
          cases returned
          rw [turn] at reached
          exact ⟨used + 1, reached⟩

/-- A loop returns after finitely many accesses precisely when it does so after
finitely many turns. -/
theorem Call.returns_iff :
    (∃ count, (⟨device, body state⟩ : Call δ σ α).alone bus body count = ⟨after, .done (.inr result)⟩) ↔
      ∃ count, turns bus body count state device = some (result, after) := by
  constructor
  · rintro ⟨count, returned⟩
    exact turns_of_returned returned
  · rintro ⟨count, returned⟩
    exact returned_of_turns returned

end Alone

end SimonVs.Data
