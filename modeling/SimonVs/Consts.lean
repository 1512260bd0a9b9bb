namespace SimonVs

/-- `Play_Screens`: the board image with the lit button. -/
inductive PlayScreens where
  | default
  | green
  | yellow
  | purple
  | blue
  | red
  | vs
  | white
deriving DecidableEq, Repr

/-- `button_click_t` -/
inductive ButtonClick where
  | greenB
  | yellowB
  | purpleB
  | blueB
  | redB
  | vsB
  | noButton
deriving DecidableEq, Repr

/-- The value of the enumerator in C. -/
def ButtonClick.value : ButtonClick → Nat
  | .greenB => 0
  | .yellowB => 1
  | .purpleB => 2
  | .blueB => 3
  | .redB => 4
  | .vsB => 5
  | .noButton => 6

/-- The cast `(button_click_t) value`, on the values of the enumeration. -/
def ButtonClick.ofValue : Nat → ButtonClick
  | 0 => .greenB
  | 1 => .yellowB
  | 2 => .purpleB
  | 3 => .blueB
  | 4 => .redB
  | 5 => .vsB
  | _ => .noButton

inductive Winners where
  | winner1
  | winner2
  | tie
deriving DecidableEq, Repr

def Winners.value : Winners → Nat
  | .winner1 => 0
  | .winner2 => 1
  | .tie => 2

/-- `Game_Modes`: the screen that `event_handler` dispatches on. -/
inductive GameModes where
  | menu
  | howToPlay
  | leaderboard
  | numRounds
  | game
  | highscore
  | host
  | mpGame
  | exit
deriving DecidableEq, Repr

/-- `coms`: the bytes the two PCs exchange. -/
inductive Coms where
  | ack
  | error
  | connected
  | greenRemote
  | yellowRemote
  | purpleRemote
  | blueRemote
  | redRemote
  | whiteRemote
  | isVs
  | isNotVs
  | ready
  | lose
  | tieRemote
deriving DecidableEq, Repr

def Coms.toByte : Coms → UInt8
  | .ack => 0
  | .error => 1
  | .connected => 2
  | .greenRemote => 3
  | .yellowRemote => 4
  | .purpleRemote => 5
  | .blueRemote => 6
  | .redRemote => 7
  | .whiteRemote => 8
  | .isVs => 9
  | .isNotVs => 10
  | .ready => 11
  | .lose => 12
  | .tieRemote => 13

/-- `GREEN_REMOTE + click` -/
def buttonByte (click : ButtonClick) : UInt8 :=
  Coms.greenRemote.toByte + UInt8.ofNat click.value

/-- `(button_click_t)(data - GREEN_REMOTE)` -/
def byteButton (data : UInt8) : ButtonClick :=
  .ofValue (data.toNat - Coms.greenRemote.toByte.toNat)

theorem byteButton_buttonByte (click : ButtonClick) : byteButton (buttonByte click) = click := by
  cases click <;> rfl

/-- `INTERVAL`: seconds for each button press. -/
def interval : Int := 3 + 1

/-- `VS_INTERVAL`: seconds for a lucky VS round. -/
def vsInterval : Int := 5 + 1

/-- `TIMER_BUTTON_MP`: how long a button stays lit in the two-PC game. -/
def timerButtonMp : Nat := 12

/-- `ENTER` and `BACKSPACE`, as the keyboard decoder produces them. -/
def enter : Nat := 10
def backspace : Nat := 8

end SimonVs
