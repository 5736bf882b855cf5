import TableCodegen.CommandLine.Run
import TableCodegen.FileTree
import TableCodegen.Proofs.Invocations

/-!
# The byte literal command

The command takes two operands and a flag, which may stand anywhere among them:

    byte-literal 0aff magic --legacy-boundary
    -q byte-literal --legacy-boundary 0aff -- -magic

In front of the name stand the switches for all commands. They say where the settings are and
whether to be quiet, but the command asks for neither. `LiteralArguments` is the grammar of what
stands behind the name, and `ofArguments?_eq_literal_iff` says that it is all that asks for a
declaration. What a run says is then told by the two operands and the flag alone (`run_literal`):
whatever the files are, whatever else the command line says and in whatever order, it is the same,
and no file is so much as looked at.
-/

namespace TableCodegen
namespace CommandLine

open Text

/-- **The arguments behind the name of the command,** the operands among them in their order, and
whether the flag is there. -/
inductive LiteralArguments : List Text → List Text → Bool → Prop where
  | nil : LiteralArguments [] [] false
  /-- Behind `--` everything is an operand. -/
  | stop (operands : List Text) : LiteralArguments (['-', '-'] :: operands) operands false
  | operand {t : Text} {arguments operands : List Text} {flagged : Bool}
    (ht : holdsSwitches t = false) (more : LiteralArguments arguments operands flagged) :
    LiteralArguments (t :: arguments) (t :: operands) flagged
  | flag {arguments operands : List Text} (more : LiteralArguments arguments operands false) :
    LiteralArguments ("--legacy-boundary".toList :: arguments) operands true

/-- **The command lines that ask for a declaration.** -/
structure InvokesLiteral (hex name : Text) (flagged : Bool) (settingsFile : Option Text)
    (quiet : Bool) (arguments : List Text) : Prop where
  spelled : ∃ before behind globals, arguments = before ++ "byte-literal".toList :: behind ∧
    Spelled globalSwitches before globals ∧ globals.Perm (globalItems settingsFile quiet) ∧
    LiteralArguments behind [hex, name] flagged
  settingsFile_ne : settingsFile ≠ some []

/-- The boundary that the flag stands for. -/
def boundaryOf (flagged : Bool) : Java.Boundary := if flagged then .legacy else .exact

/-- The boundary tells whether the flag is there, so a task stands for one reading of the
arguments. -/
theorem boundaryOf_injective :
    ∀ {flagged flagged' : Bool}, boundaryOf flagged = boundaryOf flagged' → flagged = flagged' := by
  decide

/-- **What the command says,** and its status. -/
inductive Declares (hex name : Text) (boundary : Java.Boundary) : Outcome → Prop where
  | declared {bytes : Bytes} {declaration : Text} (hdecode : Hex.decode hex = .ok bytes)
    (hdeclare : Java.declareHex hex name boundary = .ok declaration) :
    Declares hex name boundary ⟨0, utf8 declaration, [], []⟩
  | refused {error : Hex.Error} (hdecode : Hex.decode hex = .error error) :
    Declares hex name boundary
      ⟨1, [], "error\ninvalid hex string: ".toList ++ error.message ++ ['\n'], []⟩

/-! ### Reading the arguments -/

section Reading

variable {before operands arguments : List Text} {legacy flagged : Bool} {task : Task}

/-- The flag is a switch of the command. -/
theorem readItems_boundaryFlag (rest : List Text) :
    readItems literalSwitches none ("--legacy-boundary".toList :: rest) =
      .flag .legacyBoundary :: readItems literalSwitches none rest := by
  have hname : '=' ∉ "legacy-boundary".toList := by decide
  have hne : "legacy-boundary".toList ≠ [] := by decide
  have hfind : literalSwitches.find? (·.long == "legacy-boundary".toList) =
    some ⟨.legacyBoundary, "legacy-boundary".toList, none, false⟩ := rfl
  exact (Argument.long hname hne hfind rfl).readItems_cons rest

/-- In front of one of the two operands there is one at most. -/
theorem length_lt_two {t hex name : Text} (h : before ++ t :: operands = [hex, name]) :
    before.length < 2 := by
  have hlength := congrArg List.length h
  simp only [List.length_append, List.length_cons, List.length_nil] at hlength
  omega

/-- At the end there have to be two operands. -/
theorem literalGoal_nil_iff : literalGoal before legacy [] = some (.task task) ↔
    ∃ hex name, before = [hex, name] ∧ task = .byteLiteral hex name (boundaryOf legacy) := by
  constructor
  · intro h
    match before with
    | [hex, name] =>
      cases h
      exact ⟨hex, name, rfl, rfl⟩
    | [] | [_] | _ :: _ :: _ :: _ => cases h
  · rintro ⟨hex, name, rfl, rfl⟩
    rfl

/-- Operands behind `--` join those before. -/
theorem literalGoal_plainOperands_iff :
    literalGoal before legacy (operands.map .plainOperand) = some (.task task) ↔
      ∃ hex name, before ++ operands = [hex, name] ∧
        task = .byteLiteral hex name (boundaryOf legacy) := by
  induction operands generalizing before with
  | nil => rw [List.append_nil, List.map_nil, literalGoal_nil_iff]
  | cons t operands ih =>
    rw [List.map_cons, literalGoal]
    by_cases hshort : before.length < 2
    · rw [if_pos hshort, ih, List.append_assoc, List.singleton_append]
    · rw [if_neg hshort]
      refine iff_of_false (fun h => by cases h) ?_
      rintro ⟨hex, name, hoperands, -⟩
      exact hshort (length_lt_two hoperands)

/-- What makes a declaration: arguments with the operands that are missing, and with the flag at
most once. -/
def Takes (before : List Text) (legacy : Bool) (arguments : List Text) (task : Task) : Prop :=
  ∃ operands flagged hex name, LiteralArguments arguments operands flagged ∧
    before ++ operands = [hex, name] ∧ (flagged = true → legacy = false) ∧
    task = .byteLiteral hex name (boundaryOf (legacy || flagged))

/-- **What the grammar takes is asked for.** The induction is on the arguments as the grammar has
them, with the operands so far in front of those to come. -/
theorem Takes.literalGoal_eq (h : Takes before legacy arguments task) :
    literalGoal before legacy (readItems literalSwitches none arguments) = some (.task task) := by
  obtain ⟨operands, flagged, hex, name, harguments, hoperands, hflag, rfl⟩ := h
  induction harguments generalizing before legacy with
  | nil =>
    rw [Bool.or_false, readItems, literalGoal_nil_iff]
    exact ⟨hex, name, by rwa [List.append_nil] at hoperands, rfl⟩
  | stop operands =>
    rw [Bool.or_false]
    exact literalGoal_plainOperands_iff.2 ⟨hex, name, hoperands, rfl⟩
  | operand ht more ih =>
    rw [readItems_operand ht, literalGoal, if_pos (length_lt_two hoperands)]
    exact ih (by rwa [List.append_assoc, List.singleton_append]) hflag
  | flag more ih =>
    obtain rfl := hflag rfl
    rw [readItems_boundaryFlag, literalGoal, if_neg Bool.false_ne_true]
    exact ih hoperands fun h => absurd h Bool.false_ne_true

/-- Help and faults make no declaration. -/
theorem literalGoal_other {item : Item LiteralKey} (h : item = .flag .help ∨ item = .fault)
    (items : List (Item LiteralKey)) :
    literalGoal before legacy (item :: items) ≠ some (.task task) := by
  obtain rfl | rfl := h <;> nofun

/-- The switches of the command are flags: the one for help and the one without a letter. -/
theorem mem_literalSwitches : ∀ switch ∈ literalSwitches, switch.takesValue = false ∧
    (switch.key = .help ∨ switch.long = "legacy-boundary".toList ∧ switch.short = none) := by
  decide

/-- Behind two hyphens there is help or a fault, if not the flag. No switch of the command takes a
value, so a text behind an equals sign is a fault too. -/
theorem readLong_literalSwitches {body : Text} (h : body ≠ "legacy-boundary".toList) :
    ∃ item, (item = .flag .help ∨ item = .fault) ∧
      readLong literalSwitches body = ⟨[item], none⟩ := by
  obtain ⟨hsplit, -⟩ | ⟨name, value, hsplit, -, -⟩ := splitEquals_cases body
  · cases hfind : literalSwitches.find? (·.long == body) with
    | none =>
      simp only [readLong, hsplit, hfind]
      exact ⟨_, .inr rfl, rfl⟩
    | some switch =>
      obtain ⟨hvalue, hkey | ⟨hlong, -⟩⟩ :=
        mem_literalSwitches switch (List.mem_of_find?_eq_some hfind)
      · simp only [readLong, hsplit, hfind, hvalue, hkey]
        exact ⟨_, .inl rfl, rfl⟩
      · have hbody : switch.long = body := by simpa using List.find?_some hfind
        exact absurd (hbody.symm.trans hlong) h
  · cases hfind : literalSwitches.find? (·.long == name) with
    | none =>
      simp only [readLong, hsplit, hfind]
      exact ⟨_, .inr rfl, rfl⟩
    | some switch =>
      obtain ⟨hvalue, -⟩ := mem_literalSwitches switch (List.mem_of_find?_eq_some hfind)
      simp only [readLong, hsplit, hfind, hvalue]
      exact ⟨_, .inr rfl, rfl⟩

/-- Behind one hyphen there is help or a fault. -/
theorem readShort_literalSwitches (c : Char) (cs : Text) :
    ∃ item items, (item = .flag .help ∨ item = .fault) ∧
      (readShort literalSwitches (c :: cs)).items = item :: items := by
  cases hfind : literalSwitches.find? (·.short == some c) with
  | none =>
    simp only [readShort, hfind]
    exact ⟨_, [], .inr rfl, rfl⟩
  | some switch =>
    obtain ⟨hvalue, hkey | ⟨-, hshort⟩⟩ :=
      mem_literalSwitches switch (List.mem_of_find?_eq_some hfind)
    · simp only [readShort, hfind, hvalue, hkey]
      exact ⟨_, _, .inl rfl, rfl⟩
    · have hletter : switch.short = some c := by simpa using List.find?_some hfind
      rw [hshort] at hletter
      cases hletter

/-- Arguments that hold switches: `--`, and what is behind one hyphen or two. -/
theorem holdsSwitches_cases {argument : Text} (h : holdsSwitches argument = true) :
    argument = ['-', '-'] ∨ (∃ body, body ≠ [] ∧ argument = '-' :: '-' :: body) ∨
      ∃ c body, c ≠ '-' ∧ argument = '-' :: c :: body := by
  match argument with
  | [] => simp [holdsSwitches] at h
  | [c] =>
    simp [holdsSwitches] at h
  | c :: d :: body =>
    obtain rfl : c = '-' := by simpa [holdsSwitches] using h
    by_cases hd : d = '-'
    · subst hd
      by_cases hbody : body = []
      · exact .inl (by rw [hbody])
      · exact .inr (.inl ⟨body, hbody, rfl⟩)
    · exact .inr (.inr ⟨d, body, hd, rfl⟩)

/-- **What is asked for is of the grammar.** Here the induction is on the arguments as the reader
finds them, and each that the grammar does not have is read as a fault or as a request for help,
which makes no declaration. -/
theorem takes_of_literalGoal
    (h : literalGoal before legacy (readItems literalSwitches none arguments) = some (.task task)) :
    Takes before legacy arguments task := by
  induction arguments generalizing before legacy with
  | nil =>
    obtain ⟨hex, name, rfl, rfl⟩ := literalGoal_nil_iff.1 h
    exact ⟨[], false, hex, name, .nil, rfl, nofun, by rw [Bool.or_false]⟩
  | cons argument arguments ih =>
    by_cases hholds : holdsSwitches argument = true
    · -- The stop, the flag, another name behind two hyphens, or letters.
      obtain rfl | ⟨body, hbody, rfl⟩ | ⟨c, body, hc, rfl⟩ := holdsSwitches_cases hholds
      · obtain ⟨hex, name, hoperands, rfl⟩ := literalGoal_plainOperands_iff.1 h
        exact ⟨arguments, false, hex, name, .stop arguments, hoperands, nofun,
          by rw [Bool.or_false]⟩
      · by_cases hflag : body = "legacy-boundary".toList
        · have hargument : '-' :: '-' :: body = "--legacy-boundary".toList := by
            rw [hflag]
            rfl
          rw [hargument] at h ⊢
          rw [readItems_boundaryFlag, literalGoal] at h
          cases legacy with
          | true => cases h
          | false =>
            obtain ⟨operands, flagged, hex, name, more, hoperands, hmore, rfl⟩ := ih h
            obtain rfl : flagged = false := by simpa using hmore
            exact ⟨operands, true, hex, name, .flag more, hoperands, fun _ => rfl, rfl⟩
        · obtain ⟨item, hitem, hread⟩ := readLong_literalSwitches hflag
          rw [readItems_long hbody, hread] at h
          exact absurd h (literalGoal_other hitem _)
      · obtain ⟨item, items, hitem, hread⟩ := readShort_literalSwitches c body
        rw [readItems_short hc, hread] at h
        exact absurd h (literalGoal_other hitem _)
    · rw [readItems_operand (by simpa using hholds), literalGoal] at h
      split at h
      · obtain ⟨operands, flagged, hex, name, more, hoperands, hmore, rfl⟩ := ih h
        rw [List.append_assoc, List.singleton_append] at hoperands
        exact ⟨argument :: operands, flagged, hex, name, .operand (by simpa using hholds) more,
          hoperands, hmore, rfl⟩
      · cases h

end Reading

section Requests

variable {hex name : Text} {flagged : Bool}

/-- Arguments of the grammar, and no others, ask for the declaration of their operands. -/
theorem commandGoal_eq_literal_iff {command : Text} {following : List Text} :
    commandGoal command following = some (.task (.byteLiteral hex name (boundaryOf flagged))) ↔
      command = "byte-literal".toList ∧ LiteralArguments following [hex, name] flagged := by
  constructor
  · intro h
    obtain ⟨generator, -, hgoal⟩ | ⟨hcommand, hgoal⟩ | ⟨-, hgoal⟩ := commandGoal_cases h
    · obtain ⟨after, heq, -⟩ := generatorGoal_eq_task_iff.1 hgoal
      cases heq
    · obtain ⟨operands, flagged', hex', name', hfollowing, rfl, -, heq⟩ :=
        takes_of_literalGoal hgoal
      obtain ⟨rfl, rfl, hboundary⟩ := Task.byteLiteral.inj heq
      obtain rfl := boundaryOf_injective hboundary
      exact ⟨hcommand, hfollowing⟩
    · cases hgoal
  · rintro ⟨rfl, hfollowing⟩
    exact Takes.literalGoal_eq
      ⟨_, flagged, hex, name, hfollowing, List.nil_append _, fun _ => rfl, rfl⟩

/-- **The arguments that ask for a declaration** are those of the grammar. -/
theorem ofArguments?_eq_literal_iff {settingsFile : Option Text} {quiet : Bool}
    {arguments : List Text} :
    Request.ofArguments? arguments =
        some (.run settingsFile quiet (.byteLiteral hex name (boundaryOf flagged))) ↔
      InvokesLiteral hex name flagged settingsFile quiet arguments := by
  rw [ofArguments?_eq_task_iff]
  constructor
  · rintro ⟨hfile, before, command, behind, globals, harguments, hbefore, hglobals, hgoal⟩
    obtain ⟨rfl, hbehind⟩ := commandGoal_eq_literal_iff.1 hgoal
    exact ⟨⟨before, behind, globals, harguments, hbefore, hglobals, hbehind⟩, hfile⟩
  · rintro ⟨⟨before, behind, globals, harguments, hbefore, hglobals, hbehind⟩, hfile⟩
    exact ⟨hfile, before, _, behind, globals, harguments, hbefore, hglobals,
      commandGoal_eq_literal_iff.2 ⟨rfl, hbehind⟩⟩

end Requests

/-! ### Running the command -/

/-- A declaration is made without any access to files, whatever holds them. The outcome is chosen
before the store, the settings and the quiet flag, so it depends on none of the three. -/
theorem exists_declares (hex name : Text) (boundary : Java.Boundary) :
    ∃ outcome, Declares hex name boundary outcome ∧
      ∀ (m : Type → Type) [Monad m] [Storage m] (settingsFile : Option Text) (quiet : Bool),
        (perform settingsFile quiet (.byteLiteral hex name boundary) : m Outcome) =
          pure outcome := by
  cases hdecode : Hex.decode hex with
  | ok bytes =>
    have hdeclare : Java.declareHex hex name boundary =
        .ok (Java.declareBytes name boundary bytes) := by
      rw [Java.declareHex, hdecode]
      rfl
    refine ⟨_, .declared hdecode hdeclare, fun m _ _ settingsFile quiet => ?_⟩
    simp only [perform, hdeclare]
  | error error =>
    have hdeclare : Java.declareHex hex name boundary = .error error := by
      rw [Java.declareHex, hdecode]
      rfl
    refine ⟨_, .refused hdecode, fun m _ _ settingsFile quiet => ?_⟩
    simp only [perform, hdeclare]
    rfl

/-- **What the command says is told by its operands and its flag.** For two operands and the flag or
its absence there is one outcome: the declaration, or why the digits are refused. Every command line
that asks for it has that outcome, whatever the files are, and leaves them as they are. It does not
so much as look at them: wherever files are kept, the run is the outcome and nothing else. -/
theorem run_literal (hex name : Text) (flagged : Bool) :
    ∃ outcome, Declares hex name (boundaryOf flagged) outcome ∧
      ∀ settingsFile quiet arguments,
        InvokesLiteral hex name flagged settingsFile quiet arguments →
          (∀ tree : FileTree,
            (run arguments : StateM FileTree Outcome).run tree = (outcome, tree)) ∧
          ∀ (m : Type → Type) [Monad m] [Storage m],
            (run arguments : m Outcome) = pure outcome := by
  obtain ⟨outcome, hdeclares, hperform⟩ := exists_declares hex name (boundaryOf flagged)
  refine ⟨outcome, hdeclares, fun settingsFile quiet arguments hinvokes => ?_⟩
  have hrun : ∀ (m : Type → Type) [Monad m] [Storage m],
      (run arguments : m Outcome) = pure outcome := by
    intro m _ _
    rw [run, ofArguments?_eq_literal_iff.2 hinvokes]
    exact hperform m settingsFile quiet
  refine ⟨fun tree => ?_, hrun⟩
  rw [hrun (StateM FileTree)]
  rfl

/-- A name with a hyphen in front, behind `--`, while a settings file is named that may not be
there: the declaration is made whatever the files are. -/
theorem run_literal_behindStop :
    InvokesLiteral "0aff".toList "-n".toList true (some ['c']) true
        ["-cc".toList, "--quiet".toList, "byte-literal".toList, "0aff".toList,
          "--legacy-boundary".toList, "--".toList, "-n".toList] ∧
      ∀ tree : FileTree,
        (run ["-cc".toList, "--quiet".toList, "byte-literal".toList, "0aff".toList,
          "--legacy-boundary".toList, "--".toList, "-n".toList] :
            StateM FileTree Outcome).run tree =
          (⟨0, utf8 "byte[] -n = \x7b\n    (byte) 0x0a\x7d; (byte) 0xff,\n".toList, [], []⟩,
            tree) := by
  have hinvokes : InvokesLiteral "0aff".toList "-n".toList true (some ['c']) true
      ["-cc".toList, "--quiet".toList, "byte-literal".toList, "0aff".toList,
        "--legacy-boundary".toList, "--".toList, "-n".toList] :=
    ofArguments?_eq_literal_iff.1 (by decide +kernel)
  obtain ⟨outcome, hdeclares, hrun⟩ := run_literal "0aff".toList "-n".toList true
  have houtcome : outcome =
      ⟨0, utf8 "byte[] -n = \x7b\n    (byte) 0x0a\x7d; (byte) 0xff,\n".toList, [], []⟩ := by
    cases hdeclares with
    | declared _ hdeclare =>
      have hevaluated : Java.declareHex "0aff".toList "-n".toList (boundaryOf true) =
          .ok "byte[] -n = \x7b\n    (byte) 0x0a\x7d; (byte) 0xff,\n".toList := by
        decide +kernel
      rw [Except.ok.inj (hdeclare.symm.trans hevaluated)]
    | refused hdecode =>
      have hevaluated : Hex.decode "0aff".toList = .ok [0x0a, 0xff] := by decide +kernel
      cases hdecode.symm.trans hevaluated
  subst houtcome
  exact ⟨hinvokes, (hrun _ _ _ hinvokes).1⟩

end CommandLine
end TableCodegen
