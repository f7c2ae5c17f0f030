/-!
# Key codes

The closed vocabulary of keys that a rule can be triggered by and can send.
Each key is written as one lower-case name.  Distinct keys have distinct
names, so reading a name back (`KeyCode.ofName?`) inverts writing it
(`KeyCode.name`).
-/

namespace ModalKeymap

/-- A key of the keyboard, as rules name it. -/
inductive KeyCode where
  | a | b | c | d | e | f | g | h | i | j | k | l | m | n | o | p | q | r | s
  | t | u | v | w | x | y | z | digit1 | digit2 | digit3 | digit4 | digit5
  | digit6 | digit7 | digit8 | digit9 | digit0 | returnOrEnter | escape
  | deleteOrBackspace | deleteForward | tab | spacebar | hyphen | equalSign
  | openBracket | closeBracket | backslash | nonUsPound | semicolon | quote
  | graveAccentAndTilde | comma | period | slash | nonUsBackslash | capsLock
  | f1 | f2 | f3 | f4 | f5 | f6 | f7 | f8 | f9 | f10 | f11 | f12 | f13 | f14
  | f15 | f16 | f17 | f18 | f19 | f20 | upArrow | downArrow | leftArrow
  | rightArrow | pageUp | pageDown | home | endKey | insert | printScreen
  | scrollLock | pause | application | help | keypadNumLock | keypadSlash
  | keypadAsterisk | keypadHyphen | keypadPlus | keypadEnter | keypadPeriod
  | keypadEqualSign | keypadComma | keypad1 | keypad2 | keypad3 | keypad4
  | keypad5 | keypad6 | keypad7 | keypad8 | keypad9 | keypad0 | leftControl
  | leftShift | leftOption | leftCommand | rightControl | rightShift
  | rightOption | rightCommand | fn | playOrPause | fastforward | rewind
  | mute | volumeDecrement | volumeIncrement | displayBrightnessDecrement
  | displayBrightnessIncrement | missionControl | launchpad | dashboard
  | illuminationDecrement | illuminationIncrement | japaneseEisuu
  | japaneseKana
  deriving DecidableEq, Repr

namespace KeyCode

/-- The written name of a key. -/
def name : KeyCode → String
  | .a => "a"
  | .b => "b"
  | .c => "c"
  | .d => "d"
  | .e => "e"
  | .f => "f"
  | .g => "g"
  | .h => "h"
  | .i => "i"
  | .j => "j"
  | .k => "k"
  | .l => "l"
  | .m => "m"
  | .n => "n"
  | .o => "o"
  | .p => "p"
  | .q => "q"
  | .r => "r"
  | .s => "s"
  | .t => "t"
  | .u => "u"
  | .v => "v"
  | .w => "w"
  | .x => "x"
  | .y => "y"
  | .z => "z"
  | .digit1 => "1"
  | .digit2 => "2"
  | .digit3 => "3"
  | .digit4 => "4"
  | .digit5 => "5"
  | .digit6 => "6"
  | .digit7 => "7"
  | .digit8 => "8"
  | .digit9 => "9"
  | .digit0 => "0"
  | .returnOrEnter => "return_or_enter"
  | .escape => "escape"
  | .deleteOrBackspace => "delete_or_backspace"
  | .deleteForward => "delete_forward"
  | .tab => "tab"
  | .spacebar => "spacebar"
  | .hyphen => "hyphen"
  | .equalSign => "equal_sign"
  | .openBracket => "open_bracket"
  | .closeBracket => "close_bracket"
  | .backslash => "backslash"
  | .nonUsPound => "non_us_pound"
  | .semicolon => "semicolon"
  | .quote => "quote"
  | .graveAccentAndTilde => "grave_accent_and_tilde"
  | .comma => "comma"
  | .period => "period"
  | .slash => "slash"
  | .nonUsBackslash => "non_us_backslash"
  | .capsLock => "caps_lock"
  | .f1 => "f1"
  | .f2 => "f2"
  | .f3 => "f3"
  | .f4 => "f4"
  | .f5 => "f5"
  | .f6 => "f6"
  | .f7 => "f7"
  | .f8 => "f8"
  | .f9 => "f9"
  | .f10 => "f10"
  | .f11 => "f11"
  | .f12 => "f12"
  | .f13 => "f13"
  | .f14 => "f14"
  | .f15 => "f15"
  | .f16 => "f16"
  | .f17 => "f17"
  | .f18 => "f18"
  | .f19 => "f19"
  | .f20 => "f20"
  | .upArrow => "up_arrow"
  | .downArrow => "down_arrow"
  | .leftArrow => "left_arrow"
  | .rightArrow => "right_arrow"
  | .pageUp => "page_up"
  | .pageDown => "page_down"
  | .home => "home"
  | .endKey => "end"
  | .insert => "insert"
  | .printScreen => "print_screen"
  | .scrollLock => "scroll_lock"
  | .pause => "pause"
  | .application => "application"
  | .help => "help"
  | .keypadNumLock => "keypad_num_lock"
  | .keypadSlash => "keypad_slash"
  | .keypadAsterisk => "keypad_asterisk"
  | .keypadHyphen => "keypad_hyphen"
  | .keypadPlus => "keypad_plus"
  | .keypadEnter => "keypad_enter"
  | .keypadPeriod => "keypad_period"
  | .keypadEqualSign => "keypad_equal_sign"
  | .keypadComma => "keypad_comma"
  | .keypad1 => "keypad_1"
  | .keypad2 => "keypad_2"
  | .keypad3 => "keypad_3"
  | .keypad4 => "keypad_4"
  | .keypad5 => "keypad_5"
  | .keypad6 => "keypad_6"
  | .keypad7 => "keypad_7"
  | .keypad8 => "keypad_8"
  | .keypad9 => "keypad_9"
  | .keypad0 => "keypad_0"
  | .leftControl => "left_control"
  | .leftShift => "left_shift"
  | .leftOption => "left_option"
  | .leftCommand => "left_command"
  | .rightControl => "right_control"
  | .rightShift => "right_shift"
  | .rightOption => "right_option"
  | .rightCommand => "right_command"
  | .fn => "fn"
  | .playOrPause => "play_or_pause"
  | .fastforward => "fastforward"
  | .rewind => "rewind"
  | .mute => "mute"
  | .volumeDecrement => "volume_decrement"
  | .volumeIncrement => "volume_increment"
  | .displayBrightnessDecrement => "display_brightness_decrement"
  | .displayBrightnessIncrement => "display_brightness_increment"
  | .missionControl => "mission_control"
  | .launchpad => "launchpad"
  | .dashboard => "dashboard"
  | .illuminationDecrement => "illumination_decrement"
  | .illuminationIncrement => "illumination_increment"
  | .japaneseEisuu => "japanese_eisuu"
  | .japaneseKana => "japanese_kana"

/-- Every key, in the order of the vocabulary. -/
def all : List KeyCode :=
  [.a, .b, .c, .d, .e, .f, .g, .h, .i, .j, .k, .l, .m, .n, .o, .p, .q, .r, .s,
   .t, .u, .v, .w, .x, .y, .z, .digit1, .digit2, .digit3, .digit4, .digit5,
   .digit6, .digit7, .digit8, .digit9, .digit0, .returnOrEnter, .escape,
   .deleteOrBackspace, .deleteForward, .tab, .spacebar, .hyphen, .equalSign,
   .openBracket, .closeBracket, .backslash, .nonUsPound, .semicolon, .quote,
   .graveAccentAndTilde, .comma, .period, .slash, .nonUsBackslash, .capsLock,
   .f1, .f2, .f3, .f4, .f5, .f6, .f7, .f8, .f9, .f10, .f11, .f12, .f13, .f14,
   .f15, .f16, .f17, .f18, .f19, .f20, .upArrow, .downArrow, .leftArrow,
   .rightArrow, .pageUp, .pageDown, .home, .endKey, .insert, .printScreen,
   .scrollLock, .pause, .application, .help, .keypadNumLock, .keypadSlash,
   .keypadAsterisk, .keypadHyphen, .keypadPlus, .keypadEnter, .keypadPeriod,
   .keypadEqualSign, .keypadComma, .keypad1, .keypad2, .keypad3, .keypad4,
   .keypad5, .keypad6, .keypad7, .keypad8, .keypad9, .keypad0, .leftControl,
   .leftShift, .leftOption, .leftCommand, .rightControl, .rightShift,
   .rightOption, .rightCommand, .fn, .playOrPause, .fastforward, .rewind,
   .mute, .volumeDecrement, .volumeIncrement, .displayBrightnessDecrement,
   .displayBrightnessIncrement, .missionControl, .launchpad, .dashboard,
   .illuminationDecrement, .illuminationIncrement, .japaneseEisuu,
   .japaneseKana]

/-- The key with a given name, if there is one. -/
def ofName? (text : String) : Option KeyCode :=
  all.find? fun key => key.name == text

theorem mem_all (key : KeyCode) : key ∈ all :=
  List.mem_of_elem_eq_true (by cases key <;> rfl)

/-- Every name reads back as the key that it names. -/
@[simp]
theorem ofName?_name (key : KeyCode) : ofName? key.name = some key := by
  have every : ∀ listed ∈ all, ofName? listed.name = some listed := by
    decide +kernel
  exact every key (mem_all key)

theorem name_of_ofName? {text : String} {key : KeyCode}
    (found : ofName? text = some key) : key.name = text := by
  simpa using List.find?_some found

theorem ofName?_eq_some_iff {text : String} {key : KeyCode} :
    ofName? text = some key ↔ key.name = text :=
  ⟨name_of_ofName?, fun same => same ▸ ofName?_name key⟩

theorem name_injective {first second : KeyCode}
    (same : first.name = second.name) : first = second := by
  have reread := ofName?_name first
  rw [same, ofName?_name] at reread
  exact (Option.some.inj reread).symm

theorem name_ne_empty (key : KeyCode) : key.name ≠ "" := by
  intro empty
  have read := ofName?_name key
  rw [empty] at read
  cases read

end KeyCode

/-- The keys pressed from the leader downwards, outermost first. -/
abbrev KeyPath := List KeyCode

namespace KeyPath

/-- A path as messages and descriptions show it. -/
def describe (path : KeyPath) : String :=
  " > ".intercalate (path.map KeyCode.name)

end KeyPath

end ModalKeymap
