import TableCodegen.CommandLine.Argument

/-!
# How arguments spell switches

`Spelled` is the grammar of switches: which arguments say which flags and settings. Reading is exact
for it: spelled switches are read as what they say, with any arguments behind them
(`Spelled.readItems_append`), and arguments that are read as flags and settings up to an operand are
spelled that way (`spelledBehind_of_readItems`).
-/

namespace TableCodegen
namespace CommandLine

variable {κ : Type}

/-- Letters behind one hyphen, what they say, and the switch that takes the next argument. -/
inductive Letters (switches : List (Switch κ)) : Text → List (Item κ) → Option κ → Prop where
  | nil : Letters switches [] [] none
  | flag {switch : Switch κ} {c : Char} {cs : Text} {items : List (Item κ)} {awaiting : Option κ}
    (hfind : switches.find? (·.short == some c) = some switch)
    (hflag : switch.takesValue = false) (more : Letters switches cs items awaiting) :
    Letters switches (c :: cs) (.flag switch.key :: items) awaiting
  /-- The value is the next argument. -/
  | awaits {switch : Switch κ} {c : Char}
    (hfind : switches.find? (·.short == some c) = some switch)
    (hvalue : switch.takesValue = true) : Letters switches [c] [] (some switch.key)
  /-- The value follows the letter, with an equals sign in front of it or not. -/
  | value {switch : Switch κ} {c : Char} {cs : Text}
    (hfind : switches.find? (·.short == some c) = some switch)
    (hvalue : switch.takesValue = true) (hcs : cs ≠ []) :
    Letters switches (c :: cs) [.setting switch.key (afterEquals cs)] none

/-- An argument that holds switches, what it says, and the switch that takes the next argument. -/
inductive Argument (switches : List (Switch κ)) : Text → List (Item κ) → Option κ → Prop where
  /-- `--name`, a flag. -/
  | long {switch : Switch κ} {name : Text} (hname : '=' ∉ name) (hne : name ≠ [])
    (hfind : switches.find? (·.long == name) = some switch) (hflag : switch.takesValue = false) :
    Argument switches ('-' :: '-' :: name) [.flag switch.key] none
  /-- `--name`, with the value in the next argument. -/
  | longAwaits {switch : Switch κ} {name : Text} (hname : '=' ∉ name) (hne : name ≠ [])
    (hfind : switches.find? (·.long == name) = some switch) (hvalue : switch.takesValue = true) :
    Argument switches ('-' :: '-' :: name) [] (some switch.key)
  /-- `--name=value`. -/
  | longValue {switch : Switch κ} {name : Text} (value : Text) (hname : '=' ∉ name)
    (hfind : switches.find? (·.long == name) = some switch) (hvalue : switch.takesValue = true) :
    Argument switches ('-' :: '-' :: (name ++ '=' :: value)) [.setting switch.key value] none
  /-- Letters behind one hyphen. -/
  | letters {c : Char} {cs : Text} {items : List (Item κ)} {awaiting : Option κ} (hc : c ≠ '-')
    (h : Letters switches (c :: cs) items awaiting) :
    Argument switches ('-' :: c :: cs) items awaiting

/-- **The grammar of switches:** arguments and what they say. -/
inductive Spelled (switches : List (Switch κ)) : List Text → List (Item κ) → Prop where
  | nil : Spelled switches [] []
  | alone {argument : Text} {arguments : List Text} {items more : List (Item κ)}
    (h : Argument switches argument items none) (hmore : Spelled switches arguments more) :
    Spelled switches (argument :: arguments) (items ++ more)
  /-- The next argument is the value of the last switch of this one. -/
  | withNext {argument value : Text} {arguments : List Text} {items more : List (Item κ)} {key : κ}
    (h : Argument switches argument items (some key)) (hvalue : holdsSwitches value = false)
    (hmore : Spelled switches arguments more) :
    Spelled switches (argument :: value :: arguments) (items ++ .setting key value :: more)

/-! ### Reading what is spelled -/

/-- Letters behind one hyphen are read as what they say. The induction is on the grammar, as a
letter with a value takes all that is left. -/
theorem Letters.readShort_eq {switches : List (Switch κ)} {t : Text} {items : List (Item κ)}
    {awaiting : Option κ} (h : Letters switches t items awaiting) :
    readShort switches t = ⟨items, awaiting⟩ := by
  induction h with
  | nil => rfl
  | flag hfind hflag more ih => simp only [readShort, hfind, hflag, ih]; rfl
  | awaits hfind hvalue => simp only [readShort, hfind, hvalue]; rfl
  | value hfind hvalue hcs =>
    simp only [readShort, hfind, hvalue, if_true, List.isEmpty_eq_false_iff.2 hcs]
    rfl

/-- Up to the first equals sign nothing is one. -/
theorem isPlain_of_notMem {name : Text} (h : '=' ∉ name) : ∀ c ∈ name, decide (c ≠ '=') = true := by
  intro c hc
  rw [decide_eq_true_eq]
  rintro rfl
  exact h hc

/-- A name without an equals sign has no value in its argument. -/
theorem splitEquals_of_notMem {t : Text} (h : '=' ∉ t) : splitEquals t = (t, none) := by
  have hdrop : (t ++ []).dropWhile (· ≠ '=') = _ :=
    List.dropWhile_append_of_pos (isPlain_of_notMem h)
  rw [List.append_nil, List.dropWhile_nil] at hdrop
  rw [splitEquals, hdrop]

/-- The value starts behind the first equals sign, and may hold further ones. -/
theorem splitEquals_append {name : Text} (h : '=' ∉ name) (value : Text) :
    splitEquals (name ++ '=' :: value) = (name, some value) := by
  rw [splitEquals, List.dropWhile_append_of_pos (isPlain_of_notMem h),
    List.takeWhile_append_of_pos (isPlain_of_notMem h)]
  simp

/-- An argument with two hyphens is read by itself, and what follows it may be its value. -/
theorem readItems_long {switches : List (Switch κ)} {body : Text} (h : body ≠ [])
    (rest : List Text) : readItems switches none (('-' :: '-' :: body) :: rest) =
      (readLong switches body).items ++
        readItems switches (readLong switches body).awaiting rest := by
  rw [readItems]
  rintro ⟨⟩
  exact h rfl

/-- An argument with one hyphen is read by itself in the same way. -/
theorem readItems_short {switches : List (Switch κ)} {c : Char} (h : c ≠ '-') (body : Text)
    (rest : List Text) : readItems switches none (('-' :: c :: body) :: rest) =
      (readShort switches (c :: body)).items ++
        readItems switches (readShort switches (c :: body)).awaiting rest := by
  rw [readItems]
  · exact fun heq _ => h heq
  · exact h

/-- An argument without switches is an operand, and has all arguments behind it as its own. -/
theorem readItems_operand {switches : List (Switch κ)} {t : Text} (h : holdsSwitches t = false)
    (rest : List Text) :
    readItems switches none (t :: rest) = .operand t rest :: readItems switches none rest := by
  rw [readItems]
  · rintro rfl
    simp [holdsSwitches] at h
  · rintro body rfl
    simp [holdsSwitches] at h
  · rintro c body rfl
    simp [holdsSwitches] at h

/-- An argument of the grammar is read as what it says, and the next one is its value if it awaits
one. -/
theorem Argument.readItems_cons {switches : List (Switch κ)} {argument : Text}
    {items : List (Item κ)} {awaiting : Option κ} (h : Argument switches argument items awaiting)
    (rest : List Text) :
    readItems switches none (argument :: rest) = items ++ readItems switches awaiting rest := by
  cases h with
  | long hname hne hfind hflag =>
    rw [readItems_long hne]
    simp only [readLong, splitEquals_of_notMem hname, hfind, hflag]
    rfl
  | longAwaits hname hne hfind hvalue =>
    rw [readItems_long hne]
    simp only [readLong, splitEquals_of_notMem hname, hfind, hvalue]
    rfl
  | longValue value hname hfind hvalue =>
    rw [readItems_long (by simp)]
    simp only [readLong, splitEquals_append hname, hfind, hvalue]
    rfl
  | letters hc h => rw [readItems_short hc, h.readShort_eq]

/-- **Spelled switches are read as what they say.** -/
theorem Spelled.readItems_append {switches : List (Switch κ)} {arguments : List Text}
    {items : List (Item κ)} (h : Spelled switches arguments items) (rest : List Text) :
    readItems switches none (arguments ++ rest) = items ++ readItems switches none rest := by
  induction h with
  | nil => rfl
  | alone h hmore ih => rw [List.cons_append, h.readItems_cons, ih, List.append_assoc]
  | withNext h hvalue hmore ih =>
    rw [List.cons_append, List.cons_append, h.readItems_cons, readItems, if_neg (by simp [hvalue]),
      ih, List.append_assoc, List.cons_append]

/-! ### What is read is spelled -/

/-- Whether an item is a flag or a setting. -/
def Item.isSwitch : Item κ → Bool
  | .flag _ => true
  | .setting _ _ => true
  | _ => false

/-- A fault is no switch. -/
theorem not_isSwitch_fault {items : List (Item κ)} :
    ¬ ∀ item ∈ .fault :: items, item.isSwitch = true := by
  intro h
  cases h .fault List.mem_cons_self

/-- What is read as flags and settings is spelled by letters. A letter that no switch has is read as
a fault, which is neither. -/
theorem letters_of_readShort {switches : List (Switch κ)} {t : Text}
    (h : ∀ item ∈ (readShort switches t).items, item.isSwitch = true) :
    Letters switches t (readShort switches t).items (readShort switches t).awaiting := by
  induction t with
  | nil => exact .nil
  | cons c cs ih =>
    cases hfind : switches.find? (·.short == some c) with
    | none =>
      simp only [readShort, hfind] at h
      exact absurd h not_isSwitch_fault
    | some switch =>
      cases hvalue : switch.takesValue with
      | false =>
        simp only [readShort, hfind, hvalue, Bool.false_eq_true, if_false] at h ⊢
        exact .flag hfind hvalue (ih fun item hitem => h item (List.mem_cons_of_mem _ hitem))
      | true =>
        cases cs with
        | nil =>
          simp only [readShort, hfind, hvalue]
          exact .awaits hfind hvalue
        | cons d ds =>
          simp only [readShort, hfind, hvalue]
          exact .value hfind hvalue (List.cons_ne_nil d ds)

/-- A text is its part up to the first equals sign, alone or with the part behind. -/
theorem splitEquals_cases (t : Text) :
    (splitEquals t = (t, none) ∧ '=' ∉ t) ∨
      ∃ name value, splitEquals t = (name, some value) ∧ t = name ++ '=' :: value ∧ '=' ∉ name := by
  by_cases h : '=' ∈ t
  · obtain ⟨name, value, rfl, hname⟩ := List.eq_append_cons_of_mem h
    exact .inr ⟨name, value, splitEquals_append hname value, rfl, hname⟩
  · exact .inl ⟨splitEquals_of_notMem h, h⟩

/-- What is read as a flag or a setting is spelled by one long name. A flag with a value is read as
a fault. -/
theorem argument_of_readLong {switches : List (Switch κ)} {body : Text} (hbody : body ≠ [])
    (h : ∀ item ∈ (readLong switches body).items, item.isSwitch = true) :
    Argument switches ('-' :: '-' :: body) (readLong switches body).items
      (readLong switches body).awaiting := by
  obtain ⟨hsplit, hname⟩ | ⟨name, value, hsplit, rfl, hname⟩ := splitEquals_cases body
  · cases hfind : switches.find? (·.long == body) with
    | none =>
      simp only [readLong, hsplit, hfind] at h
      exact absurd h not_isSwitch_fault
    | some switch =>
      cases hvalue : switch.takesValue with
      | false =>
        simp only [readLong, hsplit, hfind, hvalue]
        exact .long hname hbody hfind hvalue
      | true =>
        simp only [readLong, hsplit, hfind, hvalue]
        exact .longAwaits hname hbody hfind hvalue
  · cases hfind : switches.find? (·.long == name) with
    | none =>
      simp only [readLong, hsplit, hfind] at h
      exact absurd h not_isSwitch_fault
    | some switch =>
      cases hvalue : switch.takesValue with
      | false =>
        simp only [readLong, hsplit, hfind, hvalue] at h
        exact absurd h not_isSwitch_fault
      | true =>
        simp only [readLong, hsplit, hfind, hvalue]
        exact .longValue value hname hfind hvalue

/-- The items behind switches, and the arguments that they are read from. -/
inductive Behind : List (Item κ) → List Text → Prop where
  | nothing : Behind [] []
  /-- `--` with nothing behind it. -/
  | stop : Behind [] [['-', '-']]
  | operand (name : Text) (following : List Text) (others : List (Item κ)) :
    Behind (.operand name following :: others) (name :: following)

/-- Items that end, or go on with an operand. -/
def Ends (items : List (Item κ)) : Prop :=
  items = [] ∨ ∃ name following others, items = .operand name following :: others

/-- Switches in front of other items are in front of what ends them. -/
theorem split_of_ends {read more items tail : List (Item κ)} (h : read ++ more = items ++ tail)
    (hread : ∀ name following, .operand name following ∉ read) (htail : Ends tail) :
    ∃ others, items = read ++ others ∧ more = others ++ tail := by
  rcases List.append_eq_append_iff.1 h with ⟨others, hitems, hmore⟩ | ⟨others, hitems, hmore⟩
  · exact ⟨others, hitems, hmore⟩
  · cases others with
    | nil =>
      refine ⟨[], ?_, ?_⟩
      · rw [hitems, List.append_nil, List.append_nil]
      · rw [List.nil_append] at hmore ⊢
        exact hmore.symm
    | cons item others =>
      exfalso
      rcases htail with rfl | ⟨name, following, _, rfl⟩
      · cases hmore
      · obtain ⟨rfl, -⟩ := List.cons.inj hmore
        exact hread name following (by simp [hitems])

/-- An argument with two hyphens is no operand. -/
theorem operand_notMem_readLong (switches : List (Switch κ)) (body name : Text)
    (following : List Text) : .operand name following ∉ (readLong switches body).items := by
  unfold readLong
  repeat' split
  all_goals simp

/-- An argument with one hyphen is no operand. -/
theorem operand_notMem_readShort (switches : List (Switch κ)) (t name : Text)
    (following : List Text) : .operand name following ∉ (readShort switches t).items := by
  induction t with
  | nil => simp [readShort]
  | cons c cs ih =>
    unfold readShort
    split
    · simp
    · split
      · split <;> simp
      · simpa using ih

/-- What is read behind a switch that awaits a value, or behind none. -/
def SpelledBehind (switches : List (Switch κ)) (awaiting : Option κ) (arguments : List Text)
    (items tail : List (Item κ)) : Prop :=
  match awaiting with
  | none => ∃ given rest, arguments = given ++ rest ∧ Spelled switches given items ∧
      Behind tail rest
  | some key => ∃ value given rest others, arguments = value :: (given ++ rest) ∧
      holdsSwitches value = false ∧ items = .setting key value :: others ∧
      Spelled switches given others ∧ Behind tail rest

/-- An argument in front of what is spelled is spelled with it. -/
theorem Argument.spelledBehind {switches : List (Switch κ)} {argument : Text}
    {read others tail : List (Item κ)} {awaiting : Option κ} {rest : List Text}
    (h : Argument switches argument read awaiting)
    (hrest : SpelledBehind switches awaiting rest others tail) :
    SpelledBehind switches none (argument :: rest) (read ++ others) tail := by
  cases awaiting with
  | none =>
    obtain ⟨given, rest, rfl, hspelled, hbehind⟩ := hrest
    exact ⟨argument :: given, rest, rfl, .alone h hspelled, hbehind⟩
  | some key =>
    obtain ⟨value, given, rest, others, rfl, hvalue, rfl, hspelled, hbehind⟩ := hrest
    exact ⟨argument :: value :: given, rest, rfl, .withNext h hvalue hspelled, hbehind⟩

/-- A fault is no switch and does not end switches. -/
theorem fault_ne_append {items tail : List (Item κ)}
    (hitems : ∀ item ∈ items, item.isSwitch = true) (htail : Ends tail) :
    [.fault] ≠ items ++ tail := by
  cases items with
  | nil => rcases htail with rfl | ⟨name, following, others, rfl⟩ <;> nofun
  | cons item others =>
    intro h
    obtain ⟨rfl, -⟩ := List.cons.inj h
    exact not_isSwitch_fault hitems

/-- A reading of an argument that the grammar agrees with. -/
structure Reading.Exact (switches : List (Switch κ)) (argument : Text) (reading : Reading κ) :
    Prop where
  noOperand : ∀ name following, .operand name following ∉ reading.items
  spelled : (∀ item ∈ reading.items, item.isSwitch = true) →
    Argument switches argument reading.items reading.awaiting

/-- Readings of long names agree with the grammar. -/
theorem exact_readLong (switches : List (Switch κ)) {body : Text} (hbody : body ≠ []) :
    (readLong switches body).Exact switches ('-' :: '-' :: body) :=
  ⟨operand_notMem_readLong switches body, argument_of_readLong hbody⟩

/-- Readings of letters agree with the grammar. -/
theorem exact_readShort (switches : List (Switch κ)) {c : Char} (hc : c ≠ '-') (body : Text) :
    (readShort switches (c :: body)).Exact switches ('-' :: c :: body) :=
  ⟨operand_notMem_readShort switches (c :: body), fun h => .letters hc (letters_of_readShort h)⟩

/-- An argument with an exact reading is spelled if the arguments behind it are. -/
theorem Reading.Exact.spelledBehind {switches : List (Switch κ)} {argument : Text}
    {reading : Reading κ} (h : reading.Exact switches argument) {rest : List Text}
    {more items tail : List (Item κ)} (hread : reading.items ++ more = items ++ tail)
    (hitems : ∀ item ∈ items, item.isSwitch = true) (htail : Ends tail)
    (hmore : ∀ {others : List (Item κ)}, more = others ++ tail →
      (∀ item ∈ others, item.isSwitch = true) →
        SpelledBehind switches reading.awaiting rest others tail) :
    SpelledBehind switches none (argument :: rest) items tail := by
  obtain ⟨others, rfl, hothers⟩ := split_of_ends hread h.noOperand htail
  have hargument := h.spelled fun item hitem => hitems item (List.mem_append_left _ hitem)
  exact hargument.spelledBehind (hmore hothers fun item hitem =>
    hitems item (List.mem_append_right _ hitem))

/-- **What is read as switches is spelled,** up to an operand or the end. The induction follows the
reader, with the switch that awaits a value as a part of what is proved. -/
theorem spelledBehind_of_readItems {switches : List (Switch κ)} {awaiting : Option κ}
    {arguments : List Text} {items tail : List (Item κ)}
    (h : readItems switches awaiting arguments = items ++ tail)
    (hitems : ∀ item ∈ items, item.isSwitch = true) (htail : Ends tail) :
    SpelledBehind switches awaiting arguments items tail := by
  -- The cases are those of the reader: no argument is left, with a value awaited or not; the
  -- awaited value; the stop; a long name; letters; an operand.
  fun_induction readItems switches awaiting arguments generalizing items with
  | case1 =>
    obtain ⟨rfl, rfl⟩ := List.append_eq_nil_iff.1 h.symm
    exact ⟨[], [], rfl, .nil, .nothing⟩
  | case2 key => exact absurd h (fault_ne_append hitems htail)
  | case3 key argument rest hholds => exact absurd h (fault_ne_append hitems htail)
  | case4 key argument rest hholds ih =>
    cases items with
    | nil =>
      rcases htail with rfl | ⟨name, following, others, rfl⟩
      · cases h
      · cases h
    | cons item others =>
      obtain ⟨rfl, hothers⟩ := List.cons.inj h
      have hmore := ih hothers fun item hitem => hitems item (List.mem_cons_of_mem _ hitem)
      obtain ⟨given, behind, rfl, hspelled, hbehind⟩ := hmore
      exact ⟨argument, given, behind, others, rfl, by simpa using hholds, rfl, hspelled, hbehind⟩
  | case5 rest =>
    cases items with
    | nil =>
      rcases htail with rfl | ⟨name, following, others, rfl⟩
      · obtain rfl := List.map_eq_nil_iff.1 h
        exact ⟨[], [['-', '-']], rfl, .nil, .stop⟩
      · cases rest with
        | nil => cases h
        | cons t rest => cases h
    | cons item others =>
      exfalso
      cases rest with
      | nil => cases h
      | cons t rest =>
        obtain ⟨rfl, -⟩ := List.cons.inj h
        exact absurd (hitems _ List.mem_cons_self) (by simp [Item.isSwitch])
  | case6 rest body hbody reading =>
    rename_i ih
    exact (exact_readLong switches hbody).spelledBehind h hitems htail ih
  | case7 rest c body _ hc reading =>
    rename_i ih
    exact (exact_readShort switches hc body).spelledBehind h hitems htail ih
  | case8 argument rest _ _ _ ih =>
    cases items with
    | nil =>
      rw [List.nil_append] at h
      obtain rfl := h
      exact ⟨[], argument :: rest, rfl, .nil, .operand _ _ _⟩
    | cons item others =>
      obtain ⟨rfl, -⟩ := List.cons.inj h
      exact absurd (hitems _ List.mem_cons_self) (by simp [Item.isSwitch])

end CommandLine
end TableCodegen
