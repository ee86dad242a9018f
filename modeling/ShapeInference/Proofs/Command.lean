import ShapeInference.CommandLine.Run
import ShapeInference.Proofs.Encodable
import ShapeInference.Proofs.Files
import ShapeInference.Proofs.Settings

/-!
# All of a declaration or nothing

A run of the command stops before it writes anything unless its settings are accepted and a shape is
inferred. From then on it writes: all of the declaration, in place of whatever the output held.
There is one exception. Whether the declaration can be made turns out only when the file to write
has been made empty, and it cannot if a margin is too wide, or if the machine runs out of memory or
stack.

- `CommandLine.Infers`: a run comes as far as to infer a shape under some settings;
- `CommandLine.Declares`: a declaration of that shape can be made;
- `CommandLine.Replaces`: all that the chosen output holds after a run, and that nothing else has
  changed;
- `CommandLine.replaces_write`: writing replaces what the output held;
- `CommandLine.IsAllOrNothing`: a run writes all of the declaration or leaves everything alone;
- `CommandLine.run_is_all_or_nothing_iff`: when it does, and what it does otherwise.
-/

namespace ShapeInference

namespace CommandLine

open Request

variable {m : Machine} {fs : Files} {standard : List UInt8} {o : Options} {s : Settings} {t : Shape}

/-! ## How far a run comes -/

/-- A run with arguments gets past the reading of its options, which are these. -/
def Asks (fs : Files) (arguments : List Text) (o : Options) : Prop :=
  ∃ a, Arguments.ofTexts arguments = .ok a ∧ a.has .help = false ∧
    Options.ofArguments fs a = .ok o

/-- The output that options ask for can be written to: there is a place for a file at the path. -/
def CanWrite (fs : Files) (o : Options) : Prop :=
  ∀ path, o.output = some path → PathFlaw.of? path = none ∧ ∃ place, fs.target path = .ok place

/-- A run with options accepts settings, those of the configuration with what the options ask for as
overrides, and infers a shape under them, for which there is enough memory and stack. -/
structure Infers (m : Machine) (fs : Files) (standard : List UInt8) (o : Options) (s : Settings)
    (t : Shape) : Prop where
  accepted : ∃ config, o.config.elim (.ok .empty) (Config.load fs) = .ok config ∧
    Settings.ofConfig config o.overrides = .ok s
  inferred :
    (Document.infer (.bytes false (input fs standard o)) (.strategy s.strategy)).outcome = .ok t
  enough : m.inferring s.strategy (.bytes false (input fs standard o)) = none

/-- A request for the declaration of a shape under settings returns. -/
def Declares (m : Machine) (s : Settings) (t : Shape) : Prop :=
  ∃ text, Request.declare m (.shape t) (s.given .name) (s.given .indent) = .ok text

/-! ## What a run leaves behind -/

/-- A run that leaves everything as it was, and says so by its status. -/
structure LeavesAlone (fs : Files) (outcome : Outcome) : Prop where
  status : outcome.status = 1
  output : outcome.output = []
  files : outcome.files = fs

/-- A text is all that the chosen output holds after a run, and nothing else has changed. What is at
the path of a file before does not matter; what is at other places stays there. -/
def Replaces (fs : Files) (o : Options) (written : Text) (outcome : Outcome) : Prop :=
  match o.output with
  | none => written.isEncodable = true ∧ outcome.output = written ∧ outcome.files = fs
  | some path => outcome.output = [] ∧ Utf8.decode (Utf8.encode written) = .ok written ∧
      outcome.files.read path = .ok (Utf8.encode written) ∧
      ∃ place, fs.target path = .ok place ∧ ∀ other found, other ≠ place →
        fs.node? other = some found → outcome.files.node? other = some found

/-- A run writes all of the declaration or nothing: if a shape is inferred, the chosen output holds
its declaration and a line end, and otherwise everything is left alone. -/
def IsAllOrNothing (m : Machine) (fs : Files) (standard : List UInt8) (o : Options)
    (outcome : Outcome) : Prop :=
  (∀ s t, Infers m fs standard o s t → ∃ text : Text,
    Request.declare m (.shape t) (s.given .name) (s.given .indent) = .ok text ∧
      outcome.status = 0 ∧ Replaces fs o (text ++ ("\n" : Text)) outcome) ∧
  ((¬∃ s t, Infers m fs standard o s t) → LeavesAlone fs outcome)

/-! ## Settings and shapes -/

/-- Settings are accepted if there is a configuration and its settings are. -/
theorem settings_ok_iff : settings fs o = .ok s ↔
    ∃ config, o.config.elim (.ok .empty) (Config.load fs) = .ok config ∧
      Settings.ofConfig config o.overrides = .ok s := by
  unfold settings
  cases o.config.elim (.ok .empty) (Config.load fs) with
  | error f => simp
  | ok config =>
    cases hs : Settings.ofConfig config o.overrides <;> simp [hs]

/-- **How far a run comes** is what it computes: settings, and a shape under them. -/
theorem infers_iff : Infers m fs standard o s t ↔ settings fs o = .ok s ∧
    (infer m s (.bytes false (input fs standard o))).outcome = .ok t := by
  rw [settings_ok_iff]
  unfold infer
  dsimp only
  constructor
  · intro h
    rw [h.enough]
    exact ⟨h.accepted, h.inferred⟩
  · rintro ⟨haccepted, hinferred⟩
    cases henough : m.inferring s.strategy (.bytes false (input fs standard o)) with
    | none =>
      rw [henough] at hinferred
      exact ⟨haccepted, hinferred, henough⟩
    | some shortage =>
      rw [henough] at hinferred
      cases hinferred

/-- A run infers one shape at most. -/
theorem Infers.unique {s' : Settings} {t' : Shape} (h : Infers m fs standard o s t)
    (h' : Infers m fs standard o s' t') : s = s' ∧ t = t' := by
  have hsettings := (settings_ok_iff.mpr h.accepted).symm.trans (settings_ok_iff.mpr h'.accepted)
  obtain rfl := Except.ok.inj hsettings
  exact ⟨rfl, Except.ok.inj (h.inferred.symm.trans h'.inferred)⟩

theorem Infers.isTypeName (h : Infers m fs standard o s t) : s.name.isTypeName = true := by
  obtain ⟨config, -, hsettings⟩ := h.accepted
  exact Settings.isTypeName_of_ofConfig hsettings

/-- Wrong settings are no usage error. -/
theorem status_of_settings {stop : Stop} (h : settings fs o = .error stop) : stop.status = 1 := by
  unfold settings at h
  split at h
  · cases h
    rfl
  · split at h
    · cases h
      rfl
    · cases h

/-- **A declaration is made** exactly if the machine has room for it. -/
theorem declare_ok_iff (hname : s.name.isTypeName = true) {text : Text} :
    Request.declare m (.shape t) (s.given .name) (s.given .indent) = .ok text ↔
      m.HasRoom t (s.indent.getD 0) ∧ text = Declaration.write t s.name (s.indent.getD 0) :=
  declare_ok_iff_hasRoom hname (Settings.indent_given s)

theorem declares_iff (hname : s.name.isTypeName = true) :
    Declares m s t ↔ m.HasRoom t (s.indent.getD 0) := by
  unfold Declares
  simp only [declare_ok_iff hname, exists_and_left, exists_eq, and_true]

/-- What the command writes is what is declared, with a line end. -/
theorem declare_ok {text : Text}
    (h : Request.declare m (.shape t) (s.given .name) (s.given .indent) = .ok text) :
    declare m s t = .ok (text ++ ("\n" : Text)) := by
  unfold declare
  rw [h]
  rfl

/-- The command has nothing to write if nothing is declared. -/
theorem declare_error (h : ¬Declares m s t) : ∃ f, declare m s t = .error f := by
  unfold declare
  cases hdeclare : Request.declare m (.shape t) (s.given .name) (s.given .indent) with
  | ok text => exact absurd ⟨text, hdeclare⟩ h
  | error f => exact ⟨f, rfl⟩

/-! ## Writing -/

/-- Why a run stops that has written what could be declared. -/
def stopAfter : Except Failure Text → Option Stop
  | .ok _ => none
  | .error f => some (.declaration f)

/-- Writing to the standard output. -/
theorem write_standard (houtput : o.output = none) (events : List Event)
    (declared : Except Failure Text) : write fs o events declared =
      ⟨declared.toOption.getD [], events, fs, stopAfter declared⟩ := by
  unfold write
  rw [houtput]
  cases declared <;> rfl

/-- Writing to a file, which is there afterwards even if there is nothing to write. -/
theorem write_file {path : Text} {place : FilePlace} (houtput : o.output = some path)
    (hflaw : PathFlaw.of? path = none) (hplace : fs.target path = .ok place) (events : List Event)
    (declared : Except Failure Text) : write fs o events declared =
      ⟨[], events, fs.put place (.file (Utf8.encode (declared.toOption.getD []))),
        stopAfter declared⟩ := by
  unfold write
  rw [houtput]
  cases declared <;>
  · dsimp only
    rw [hflaw, Files.write_eq_put hplace]
    rfl

/-- **Writing replaces** what the output held, also when there is nothing to write. -/
theorem replaces_write (hwrite : CanWrite fs o) (events : List Event)
    {declared : Except Failure Text} (hencodable : (declared.toOption.getD []).isEncodable = true) :
    (write fs o events declared).stop = stopAfter declared ∧
      Replaces fs o (declared.toOption.getD []) (write fs o events declared) := by
  unfold Replaces
  cases houtput : o.output with
  | none =>
    rw [write_standard houtput]
    exact ⟨rfl, hencodable, rfl, rfl⟩
  | some path =>
    obtain ⟨hflaw, place, hplace⟩ := hwrite path houtput
    rw [write_file houtput hflaw hplace]
    have hread := Files.read_put hflaw hplace (Utf8.encode (declared.toOption.getD []))
    refine ⟨rfl, rfl, Utf8.decode_encode hencodable, hread, place, hplace, ?_⟩
    exact fun other found hne hfound => Files.node?_put_of_ne hne hfound

/-! ## Runs -/

theorem run_of_asks {arguments : List Text} (h : Asks fs arguments o) :
    run m fs standard arguments = runWith m fs standard o := by
  obtain ⟨a, harguments, hhelp, hoptions⟩ := h
  unfold run
  rw [harguments]
  dsimp only
  rw [hhelp, hoptions]
  rfl

/-- What a run does once it has inferred a shape. -/
theorem runWith_of_infers (h : Infers m fs standard o s t) : ∃ events,
    runWith m fs standard o = write fs o events (declare m s t) := by
  obtain ⟨hsettings, hinferred⟩ := infers_iff.mp h
  unfold runWith
  rw [hsettings]
  dsimp only
  rw [hinferred]
  exact ⟨_, rfl⟩

/-- **A run that infers no shape** leaves everything alone. -/
theorem leavesAlone_runWith (h : ¬∃ s t, Infers m fs standard o s t) :
    LeavesAlone fs (runWith m fs standard o) := by
  unfold runWith
  -- both ways out are taken before anything is written
  cases hsettings : settings fs o with
  | error stop => exact ⟨status_of_settings hsettings, rfl, rfl⟩
  | ok s =>
    dsimp only
    cases hinferred : (infer m s (.bytes false (input fs standard o))).outcome with
    | error f => exact ⟨rfl, rfl, rfl⟩
    | ok t => exact absurd ⟨s, t, infers_iff.mpr ⟨hsettings, hinferred⟩⟩ h

/-- What the command writes of a shape that was inferred can be encoded. -/
theorem isEncodable_declared (h : Infers m fs standard o s t) {text : Text}
    (htext : Request.declare m (.shape t) (s.given .name) (s.given .indent) = .ok text) :
    (text ++ ("\n" : Text)).isEncodable = true := by
  have hname := h.isTypeName
  obtain ⟨-, rfl⟩ := (declare_ok_iff hname).mp htext
  obtain ⟨strategy, -, hinferred⟩ := Document.inferWith_of_infer h.inferred
  rw [Text.isEncodable_append, Document.isEncodable_declaration hinferred hname]
  rfl

/-- **A run that can declare** what it has inferred writes all of the declaration. -/
theorem replaces_of_declares (hwrite : CanWrite fs o) (h : Infers m fs standard o s t)
    (hdeclares : Declares m s t) :
    ∃ text : Text, Request.declare m (.shape t) (s.given .name) (s.given .indent) = .ok text ∧
      (runWith m fs standard o).status = 0 ∧
      Replaces fs o (text ++ ("\n" : Text)) (runWith m fs standard o) := by
  obtain ⟨text, htext⟩ := hdeclares
  have hdeclared := declare_ok htext
  obtain ⟨events, hrun⟩ := runWith_of_infers h
  have hencodable : ((declare m s t).toOption.getD []).isEncodable = true := by
    rw [hdeclared]
    exact isEncodable_declared h htext
  obtain ⟨hstop, hreplaces⟩ := replaces_write hwrite events hencodable
  rw [← hrun, hdeclared] at hstop hreplaces
  refine ⟨text, htext, ?_, hreplaces⟩
  rw [Outcome.status, hstop]
  rfl

/-- **A run that cannot declare** what it has inferred fails, and writes nothing in place of what
the output held. -/
theorem replaces_of_not_declares (hwrite : CanWrite fs o) (h : Infers m fs standard o s t)
    (hdeclares : ¬Declares m s t) :
    (runWith m fs standard o).status = 1 ∧ Replaces fs o [] (runWith m fs standard o) := by
  obtain ⟨f, hdeclared⟩ := declare_error hdeclares
  obtain ⟨events, hrun⟩ := runWith_of_infers h
  have hencodable : ((declare m s t).toOption.getD []).isEncodable = true := by
    rw [hdeclared]
    rfl
  obtain ⟨hstop, hreplaces⟩ := replaces_write hwrite events hencodable
  rw [← hrun, hdeclared] at hstop hreplaces
  refine ⟨?_, hreplaces⟩
  rw [Outcome.status, hstop]
  rfl

/-- **When a run writes all or nothing**: on every machine, a run that gets past its options, with
an output that can be written to, does so exactly if a shape that it infers can be declared.
Otherwise it fails, but has emptied the file to write. A shape can be declared as long as nothing
runs out on the way, and every margin can be counted. -/
theorem run_is_all_or_nothing_iff {arguments : List Text} (hasks : Asks fs arguments o)
    (hwrite : CanWrite fs o) :
    (IsAllOrNothing m fs standard o (run m fs standard arguments) ↔
      ∀ s t, Infers m fs standard o s t → Declares m s t) ∧
    (∀ s t, Infers m fs standard o s t → ¬Declares m s t →
      (run m fs standard arguments).status = 1 ∧
        Replaces fs o [] (run m fs standard arguments)) ∧
    ∀ s t, Infers m fs standard o s t → (Declares m s t ↔ m.HasRoom t (s.indent.getD 0)) := by
  rw [run_of_asks hasks]
  refine ⟨⟨?_, ?_⟩, fun s t h hdeclares => replaces_of_not_declares hwrite h hdeclares,
    fun s t h => declares_iff h.isTypeName⟩
  · rintro ⟨hall, -⟩ s t h
    obtain ⟨text, htext, -⟩ := hall s t h
    exact ⟨text, htext⟩
  · intro hdeclares
    exact ⟨fun s t h => replaces_of_declares hwrite h (hdeclares s t h), leavesAlone_runWith⟩

/-! ## A margin that is too wide -/

/-- A file to write that is there already. -/
def oldFile : Files :=
  ⟨[(["out.ts"], .file (Utf8.encode "old\n"))]⟩

/-- A document with one member. -/
def oneMember : Text :=
  "\x7b\"a\": null\x7d"

/-- The shape of that document. -/
def shapeOfOneMember : Shape :=
  .objectOf [("a", .simple .null)]

/-- Arguments that ask for the declaration in that file. -/
def fileArguments : List Text :=
  ["--output-file", "out.ts"]

/-- Arguments that ask for an indent that no margin can have, too. -/
def wideArguments : List Text :=
  ["--indent", "9223372036854775808", "--output-file", "out.ts"]

/-- What such arguments ask for. -/
def toOldFile (indent : Option Int) : Options where
  input := none
  output := some "out.ts"
  name := none
  strategy := none
  indent := indent
  compact := false
  config := none
  verbose := false

theorem asks_fileArguments : Asks oldFile fileArguments (toOldFile none) :=
  ⟨⟨[(.outputFile, "out.ts")], []⟩, rfl, rfl, rfl⟩

theorem asks_wideArguments :
    Asks oldFile wideArguments (toOldFile (some 9223372036854775808)) :=
  ⟨⟨[(.indent, "9223372036854775808"), (.outputFile, "out.ts")], []⟩, rfl, rfl, rfl⟩

theorem canWrite_toOldFile (indent : Option Int) : CanWrite oldFile (toOldFile indent) := by
  intro path hpath
  obtain rfl : "out.ts" = path := Option.some.inj hpath
  exact ⟨rfl, ["out.ts"], rfl⟩

theorem infers_toOldFile {indent : Option Int}
    (hs : Settings.ofConfig .empty (toOldFile indent).overrides = .ok s)
    (hstrategy : s.strategy = .all) :
    Infers .boundless oldFile (Utf8.encode oneMember) (toOldFile indent) s shapeOfOneMember := by
  have hinferred : (Document.infer (.bytes false (Utf8.encode oneMember))
      (.strategy .all)).outcome = .ok shapeOfOneMember := by decide +kernel
  refine ⟨⟨.empty, rfl, hs⟩, ?_, rfl⟩
  rw [hstrategy]
  exact hinferred

theorem run_is_all_or_nothing_iff_of_old_file :
    Asks oldFile fileArguments (toOldFile none) ∧ CanWrite oldFile (toOldFile none) ∧
    (∃ s t, Infers .boundless oldFile (Utf8.encode oneMember) (toOldFile none) s t) ∧
    IsAllOrNothing .boundless oldFile (Utf8.encode oneMember) (toOldFile none)
      (run .boundless oldFile (Utf8.encode oneMember) fileArguments) := by
  have hs : Settings.ofConfig .empty (toOldFile none).overrides =
      .ok ⟨"MyCustomType", .all, some 2⟩ := by decide +kernel
  have hinfers := infers_toOldFile hs rfl
  have hwrite := canWrite_toOldFile none
  obtain ⟨hiff, -, hroom⟩ := run_is_all_or_nothing_iff (m := .boundless)
    asks_fileArguments hwrite
  refine ⟨asks_fileArguments, hwrite, ⟨_, _, hinfers⟩, hiff.mpr fun s t h => ?_⟩
  obtain ⟨rfl, rfl⟩ := h.unique hinfers
  exact (hroom _ _ h).mpr ⟨rfl, by decide⟩

/-- With an indent that no margin can have the run fails, and the file is not as it was, though the
machine runs out of nothing. -/
theorem run_empties_old_file :
    Asks oldFile wideArguments (toOldFile (some 9223372036854775808)) ∧
    oldFile.read "out.ts" = .ok (Utf8.encode "old\n") ∧
    (run .boundless oldFile (Utf8.encode oneMember) wideArguments).status = 1 ∧
    (run .boundless oldFile (Utf8.encode oneMember) wideArguments).files.read "out.ts" = .ok [] ∧
    ¬IsAllOrNothing .boundless oldFile (Utf8.encode oneMember)
      (toOldFile (some 9223372036854775808))
      (run .boundless oldFile (Utf8.encode oneMember) wideArguments) := by
  have hs : Settings.ofConfig .empty (toOldFile (some 9223372036854775808)).overrides =
      .ok ⟨"MyCustomType", .all, some 9223372036854775808⟩ := by decide +kernel
  have hinfers := infers_toOldFile hs rfl
  have hwide : ¬Declares .boundless ⟨"MyCustomType", .all, some 9223372036854775808⟩
      shapeOfOneMember := by
    rw [declares_iff hinfers.isTypeName]
    rintro ⟨-, hcounted⟩
    revert hcounted
    decide
  rw [run_of_asks asks_wideArguments]
  obtain ⟨hstatus, -, -, hread, -⟩ := replaces_of_not_declares (canWrite_toOldFile _) hinfers hwide
  refine ⟨asks_wideArguments, by decide +kernel, hstatus, hread, ?_⟩
  rintro ⟨hall, -⟩
  obtain ⟨text, htext, -⟩ := hall _ _ hinfers
  exact hwide ⟨text, htext⟩

end CommandLine

end ShapeInference
