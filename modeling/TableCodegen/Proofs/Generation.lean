import TableCodegen.Generate
import TableCodegen.Proofs.FileWrites

/-!
# What a run leaves behind

A run echoes and writes only when all the stages before have succeeded. So a run that fails leaves
every file as it was, a run that succeeds has changed the output file alone, and its echo holds what
the stages had to say up to the point where the run or the sink gave up: a part of the dump, a line
feed and the source, from the start.

`Echoed` lists the cases, one for each stage, and `generate_effects` says that they are all there
are.
-/

namespace TableCodegen

namespace Text

@[simp] theorem length_utf8_lineFeed : (utf8 ['\n']).length = 1 := rfl

end Text

namespace Sink

/-- A sink, with a limit or without, to which a stream of bytes has been written. -/
def filled (limit : Option Nat) (stream : Bytes) : Sink :=
  ⟨limit, match limit with | none => stream | some k => stream.take k⟩

/-- So many bytes are within a limit. -/
def Within (limit : Option Nat) (count : Nat) : Prop := ∀ k, limit = some k → count ≤ k

/-- A sink that does not take all bytes has a limit, and takes fewer. -/
theorem exists_limit_of_not_within {limit : Option Nat} {count : Nat}
    (h : ¬ Within limit count) : ∃ k, limit = some k ∧ k < count := by
  cases limit with
  | none => exact absurd (fun _ hnone => nomatch hnone) h
  | some k =>
    refine ⟨k, rfl, Nat.lt_of_not_le fun hle => h ?_⟩
    rintro _ ⟨⟩
    exact hle

/-- What an echo has received, if there is one, is told by its limit. -/
theorem map_filled (echo : Option (Option Nat)) (stream : Bytes) :
    echo.map (filled · stream) =
      echo.map fun limit => ⟨limit, (filled echo.join stream).received⟩ := by
  cases echo <;> rfl

/-- A sink that takes all bytes holds all of them. -/
theorem filled_of_within {limit : Option Nat} {stream : Bytes} (h : Within limit stream.length) :
    filled limit stream = ⟨limit, stream⟩ := by
  cases limit with
  | none => rfl
  | some k => rw [filled, List.take_of_length_le (h k rfl)]

/-- Within its limit a sink takes a text. -/
theorem writeTo_of_within {echo : Option (Option Nat)} {stream : Bytes} {t : Text}
    (h : Within echo.join (stream ++ Text.utf8 t).length) :
    writeTo (echo.map (filled · stream)) t =
      (echo.map (filled · (stream ++ Text.utf8 t)), true) := by
  obtain _ | _ | k := echo
  · rfl
  · rfl
  · have hk : (stream ++ Text.utf8 t).length ≤ k := h k rfl
    have hlength := hk
    rw [List.length_append] at hlength
    have hstream : stream.take k = stream := List.take_of_length_le (by omega)
    simp only [Option.map_some, filled, writeTo, receive, fits, hstream]
    simp [hlength]

/-- Beyond its limit a sink fails, and has taken what was within: the bytes of the text up to the
limit, and all those from before. -/
theorem writeTo_of_not_within {echo : Option (Option Nat)} {stream : Bytes} {t : Text}
    (hstream : Within echo.join stream.length)
    (h : ¬ Within echo.join (stream ++ Text.utf8 t).length) :
    writeTo (echo.map (filled · stream)) t =
      (echo.map (filled · (stream ++ Text.utf8 t)), false) := by
  obtain ⟨k, hlimit, hk⟩ := exists_limit_of_not_within h
  obtain _ | _ | _ := echo
  · cases hlimit
  · cases hlimit
  · obtain rfl := Option.some.inj hlimit
    have hlength := hstream _ rfl
    rw [List.length_append] at hk
    have hempty : (Text.utf8 t).isEmpty = false := by
      cases hbytes : Text.utf8 t with
      | nil => simp [hbytes] at hk; omega
      | cons b bytes => rfl
    simp only [Option.map_some, filled, writeTo, receive, fits, List.take_of_length_le hlength]
    simp [hk, hempty]

end Sink

namespace FileTree

/-- The content of a file as text. -/
def textOf (tree : FileTree) (path : Text) : Except IoError Text :=
  match tree.read path with
  | .error reason => .error reason
  | .ok bytes =>
    match Text.ofUtf8? bytes with
    | some t => .ok t
    | none => .error .notUtf8

/-- The source that the template file makes of records. -/
def rendering (tree : FileTree) (generator : Generator) (paths : Paths) (records : List Record) :
    Except Failure Text :=
  match tree.textOf paths.template with
  | .error reason => .error (.io paths.template reason)
  | .ok source => (renderRecords generator source records).mapError .template

/-- With a template that can be read, the rendering of a run is that of its records. -/
theorem rendering_of_textOf {tree : FileTree} {paths : Paths} {source : Text}
    (h : tree.textOf paths.template = .ok source) (generator : Generator) (records : List Record) :
    tree.rendering generator paths records =
      (renderRecords generator source records).mapError .template := by
  rw [rendering, h]

/-- A step on a tree goes on with the tree that the one in front of it left. -/
theorem run_bind {α β : Type} (tree : FileTree) (first : StateM FileTree α)
    (next : α → StateM FileTree β) :
    (first >>= next).run tree = (next (first.run tree).1).run (first.run tree).2 := rfl

/-- Reading leaves the tree as it is. -/
theorem run_readText (tree : FileTree) (path : Text) :
    (Storage.readText path : StateM FileTree _).run tree = (tree.textOf path, tree) := by
  unfold Storage.readText textOf
  cases hread : tree.read path with
  | error reason =>
    simp [Storage.readBytes, hread]
    rfl
  | ok bytes =>
    cases htext : Text.ofUtf8? bytes <;>
      · simp [Storage.readBytes, hread, htext]
        rfl

/-- Writing changes the tree if it succeeds and leaves it as it is if not. -/
theorem run_writeText (tree : FileTree) (path t : Text) :
    (Storage.writeText path t : StateM FileTree _).run tree =
      match tree.write path (Text.utf8 t) with
      | .ok after => (.ok (), after)
      | .error reason => (.error reason, tree) := by
  unfold Storage.writeText
  cases hwrite : tree.write path (Text.utf8 t) <;>
    · simp [Storage.writeBytes, hwrite]
      rfl

end FileTree

open Text

/-- What the echo of a run has received when the run ends, and how it ends: with a sink of the given
limit, or without one. The echo is to receive a dump of the records, a line feed and the source. -/
inductive Echoed (generator : Generator) (table : Text) (paths : Paths) (tree : FileTree)
    (limit : Option Nat) : Bytes → Except Failure Nat → Prop where
  /-- The table does not load. -/
  | notLoaded {error : Table.Error} (hload : generator.load table = .error error) :
    Echoed generator table paths tree limit [] (.error (.table error))
  /-- The sink is full inside the dump. -/
  | inDump {records : List Record} {k : Nat} (hload : generator.load table = .ok records)
    (hlimit : limit = some k) (hk : k < (utf8 (Dump.records records)).length) :
    Echoed generator table paths tree limit ((utf8 (Dump.records records)).take k)
      (.error (.dump Sink.full))
  /-- The sink is full behind the dump. -/
  | behindDump {records : List Record} (hload : generator.load table = .ok records)
    (hlimit : limit = some (utf8 (Dump.records records)).length) :
    Echoed generator table paths tree limit (utf8 (Dump.records records))
      (.error (.io echoPath Sink.full))
  /-- The template cannot be read, parsed or rendered. -/
  | notRendered {records : List Record} {failure : Failure}
    (hload : generator.load table = .ok records)
    (hlimit : ∀ k, limit = some k → (utf8 (Dump.records records)).length < k)
    (hrender : tree.rendering generator paths records = .error failure) :
    Echoed generator table paths tree limit (utf8 (Dump.records records) ++ utf8 ['\n'])
      (.error failure)
  /-- The sink is full inside the source or in front of it. -/
  | inSource {records : List Record} {text : Text} {k : Nat}
    (hload : generator.load table = .ok records)
    (hrender : tree.rendering generator paths records = .ok text) (hlimit : limit = some k)
    (hline : (utf8 (Dump.records records)).length + 1 ≤ k)
    (hk : k < (utf8 (Dump.records records)).length + 1 + (utf8 text).length) :
    Echoed generator table paths tree limit
      ((utf8 (Dump.records records) ++ utf8 ['\n'] ++ utf8 text).take k)
      (.error (.io echoPath Sink.full))
  /-- Everything is received, and the output is written or refused. -/
  | whole {records : List Record} {text : Text} (hload : generator.load table = .ok records)
    (hrender : tree.rendering generator paths records = .ok text)
    (hlimit : ∀ k, limit = some k →
      (utf8 (Dump.records records)).length + 1 + (utf8 text).length ≤ k) :
    Echoed generator table paths tree limit
      (utf8 (Dump.records records) ++ utf8 ['\n'] ++ utf8 text)
      (match tree.write paths.output (utf8 text) with
        | .error reason => .error (.io paths.output reason)
        | .ok _ => .ok records.length)

/-- What a run leaves of the files: the same ones if it fails, and the output file written with the
source if it succeeds. -/
inductive Left (generator : Generator) (table : Text) (paths : Paths) (tree : FileTree) :
    Except Failure Nat → FileTree → Prop where
  | same (failure : Failure) : Left generator table paths tree (.error failure) tree
  | written {records : List Record} {text : Text} {after : FileTree}
    (hload : generator.load table = .ok records)
    (hrender : tree.rendering generator paths records = .ok text)
    (hwrite : tree.write paths.output (utf8 text) = .ok after) :
    Left generator table paths tree (.ok records.length) after

/-- The stages behind the dump, over a file tree: the template is read and rendered, the source is
echoed, and then it is written. The echo comes before the output, so a sink that fails leaves the
output as it was. -/
theorem run_emitSource (generator : Generator) (records : List Record) (paths : Paths)
    (tree : FileTree) (echo : Option Sink) (events : List Log.Event) :
    (emitSource generator records paths echo events : StateM FileTree Generation).run tree =
      match tree.rendering generator paths records with
      | .error failure => (⟨.error failure, echo, events⟩, tree)
      | .ok text =>
        match Sink.writeTo echo text with
        | (echo, false) => (⟨.error (.io echoPath Sink.full), echo, events⟩, tree)
        | (echo, true) =>
          match tree.write paths.output (utf8 text) with
          | .error reason => (⟨.error (.io paths.output reason), echo, events⟩, tree)
          | .ok after =>
            (⟨.ok records.length, echo,
              events ++ [.sourceWritten paths.output (byteSize text)]⟩, after) := by
  unfold emitSource
  rw [FileTree.run_bind, FileTree.run_readText]
  cases hread : tree.textOf paths.template with
  | error reason =>
    simp only [FileTree.rendering, hread]
    rfl
  | ok source =>
    rw [FileTree.rendering_of_textOf hread]
    cases hrender : renderRecords generator source records with
    | error error =>
      simp only [hrender]
      rfl
    | ok text =>
      have hrendering : Except.mapError Failure.template (.ok text : Except Liquid.Error Text) =
        .ok text := rfl
      cases hsink : Sink.writeTo echo text with
      | mk echo' fits =>
        cases fits with
        | false =>
          simp only [hrender, hrendering, hsink]
          rfl
        | true =>
          simp only [hrender, hrendering, hsink, FileTree.run_bind, FileTree.run_writeText]
          cases tree.write paths.output (utf8 text) <;> rfl

/-- The cases behind the dump and its line feed. There are four: no source, a sink that gives up in
the middle of the source, an output that cannot be written, and success. -/
theorem emitSource_cases {generator : Generator} {table : Text} {records : List Record}
    (paths : Paths) (tree : FileTree) (echo : Option (Option Nat)) (events : List Log.Event)
    (hload : generator.load table = .ok records)
    (hline : Sink.Within echo.join (utf8 (Dump.records records) ++ utf8 ['\n']).length) :
    ∃ run received after,
      (emitSource generator records paths
          (echo.map (Sink.filled · (utf8 (Dump.records records) ++ utf8 ['\n']))) events :
          StateM FileTree Generation).run tree = (run, after) ∧
      run.echo = echo.map (fun limit => ⟨limit, received⟩) ∧
      Echoed generator table paths tree echo.join received run.outcome ∧
      Left generator table paths tree run.outcome after := by
  have hlength : (utf8 (Dump.records records) ++ utf8 ['\n']).length =
      (utf8 (Dump.records records)).length + 1 := by
    rw [List.length_append, length_utf8_lineFeed]
  rw [run_emitSource]
  cases hrender : tree.rendering generator paths records with
  | error failure =>
    refine ⟨_, _, tree, rfl, Sink.map_filled echo _, ?_, .same _⟩
    rw [Sink.filled_of_within hline]
    refine .notRendered hload (fun k hk => ?_) hrender
    have := hline k hk
    omega
  | ok text =>
    by_cases hsource : Sink.Within echo.join
        (utf8 (Dump.records records) ++ utf8 ['\n'] ++ utf8 text).length
    · have hbound : ∀ k, echo.join = some k →
          (utf8 (Dump.records records)).length + 1 + (utf8 text).length ≤ k := by
        intro k hk
        have := hsource k hk
        rw [List.length_append] at this
        omega
      have hwhole := Echoed.whole hload hrender hbound
      simp only [Sink.writeTo_of_within hsource]
      cases hwrite : tree.write paths.output (utf8 text) with
      | error reason =>
        rw [hwrite] at hwhole
        refine ⟨_, _, tree, rfl, Sink.map_filled echo _, ?_, .same _⟩
        rw [Sink.filled_of_within hsource]
        exact hwhole
      | ok after =>
        rw [hwrite] at hwhole
        refine ⟨_, _, after, rfl, Sink.map_filled echo _, ?_, .written hload hrender hwrite⟩
        rw [Sink.filled_of_within hsource]
        exact hwhole
    · obtain ⟨k, hlimit, hk⟩ := Sink.exists_limit_of_not_within hsource
      have hle := hline k hlimit
      rw [List.length_append] at hk
      simp only [Sink.writeTo_of_not_within hline hsource]
      refine ⟨_, _, tree, rfl, Sink.map_filled echo _, ?_, .same _⟩
      rw [hlimit]
      exact .inSource hload hrender rfl (by omega) (by omega)

/-- **A run over a file tree is one of the cases,** whatever the table, the files and the sink. A
table that does not load ends it first; then the sink may give up in the dump or at the line feed
behind it, and what follows are the stages behind the dump. -/
theorem generate_cases (generator : Generator) (table : Text) (paths : Paths) (tree : FileTree)
    (echo : Option (Option Nat)) :
    ∃ run received after,
      (generate generator table paths (echo.map (Sink.filled · [])) :
          StateM FileTree Generation).run tree = (run, after) ∧
      run.echo = echo.map (fun limit => ⟨limit, received⟩) ∧
      Echoed generator table paths tree echo.join received run.outcome ∧
      Left generator table paths tree run.outcome after := by
  unfold generate
  cases hload : generator.load table with
  | error error =>
    refine ⟨_, [], tree, rfl, ?_, .notLoaded hload, .same _⟩
    obtain _ | _ | k := echo <;> simp [Sink.filled]
  | ok records =>
    have hnil : Sink.Within echo.join ([] : Bytes).length := fun _ _ => Nat.zero_le _
    by_cases hdump : Sink.Within echo.join ([] ++ utf8 (Dump.records records)).length
    · have hfirst := hdump
      rw [List.nil_append] at hdump
      by_cases hline : Sink.Within echo.join (utf8 (Dump.records records) ++ utf8 ['\n']).length
      · simp only [Sink.writeTo_of_within hfirst, List.nil_append,
          Sink.writeTo_of_within hline]
        exact emitSource_cases paths tree echo _ hload hline
      · obtain ⟨k, hlimit, hk⟩ := Sink.exists_limit_of_not_within hline
        -- The line feed is a single byte, so the limit is the end of the dump.
        obtain rfl : k = (utf8 (Dump.records records)).length := by
          have := hdump k hlimit
          rw [List.length_append, length_utf8_lineFeed] at hk
          omega
        simp only [Sink.writeTo_of_within hfirst, List.nil_append,
          Sink.writeTo_of_not_within hdump hline]
        refine ⟨_, _, tree, rfl, Sink.map_filled echo _, ?_, .same _⟩
        rw [hlimit, Sink.filled, List.take_left]
        exact .behindDump hload rfl
    · obtain ⟨k, hlimit, hk⟩ := Sink.exists_limit_of_not_within hdump
      simp only [Sink.writeTo_of_not_within hnil hdump, List.nil_append]
      refine ⟨_, _, tree, rfl, Sink.map_filled echo _, ?_, .same _⟩
      rw [hlimit]
      exact .inDump hload rfl hk

/-- **What a run leaves behind.** A run that fails leaves every file as it was. A run that succeeds
has written the source to the output file, has changed nothing else, and counts the records. And the
echo has received what the case of the run says. -/
theorem generate_effects (generator : Generator) (table : Text) (paths : Paths) (tree : FileTree)
    (echo : Option (Option Nat)) :
    let run := (generate generator table paths (echo.map fun limit => ⟨limit, []⟩) :
      StateM FileTree Generation).run tree
    (∀ failure, run.1.outcome = .error failure → run.2 = tree) ∧
    (∀ count, run.1.outcome = .ok count → ∃ records text,
      generator.load table = .ok records ∧
      tree.rendering generator paths records = .ok text ∧
      count = records.length ∧
      FileTree.Written tree paths.output (utf8 text) run.2) ∧
    ∃ received, run.1.echo = echo.map (fun limit => ⟨limit, received⟩) ∧
      Echoed generator table paths tree echo.join received run.1.outcome := by
  obtain ⟨run, received, after, hrun, hecho, hechoed, hleft⟩ :=
    generate_cases generator table paths tree echo
  have hsink : (echo.map fun limit => (⟨limit, []⟩ : Sink)) = echo.map (Sink.filled · []) := by
    obtain _ | _ | k := echo <;> simp [Sink.filled]
  rw [hsink, hrun]
  refine ⟨fun failure hfailure => ?_, fun count hcount => ?_, received, hecho, hechoed⟩
  · change run.outcome = .error failure at hfailure
    rw [hfailure] at hleft
    cases hleft
    rfl
  · change run.outcome = .ok count at hcount
    rw [hcount] at hleft
    cases hleft with
    | written hload hrender hwrite =>
      exact ⟨_, _, hload, hrender, rfl, FileTree.written_of_write hwrite⟩

end TableCodegen
