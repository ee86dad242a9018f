import ShapeInference.Proofs.ClosedForm
import ShapeInference.Proofs.Layout
import ShapeInference.Proofs.Reading
import ShapeInference.Proofs.Utf8

/-!
# Declarations are safe to write

Half of a surrogate pair may stand in the name of a member, and so may a control character, but
there they are escaped. So a declaration can be written as long as the names of the classes in it
can. Documents write no classes, and whatever is declared of a document can be written and encoded.

- `Shape.namesOnly_of_at?`: the classes of a shape are those that routes lead to;
- `Value.namesOnly_shapeOf`: the shape of what a document writes names no class;
- `Json.isKept_isTextual`: what is read from a document has texts for keys, each once;
- `Document.load_kept`: what is kept when a document is read, whatever it is given as;
- `Document.isEncodable_declaration`: what is declared of a document can be encoded;
- `Document.declarations_are_safe_to_write`: what stands in a declaration of a document.
-/

namespace ShapeInference

/-! ## Writable texts -/

namespace Text

variable {t u : Text}

theorem isEncodable_append : (t ++ u).isEncodable = (t.isEncodable && u.isEncodable) :=
  List.all_append

/-- What can be written can be encoded. -/
theorem isEncodable_of_isWritable (h : t.isWritable = true) : t.isEncodable = true := by
  refine List.all_eq_true.mpr fun c hc => ?_
  have hc := List.all_eq_true.mp h c hc
  rcases (Bool.or_eq_true _ _).mp hc with hnewline | hinline
  · rw [of_decide_eq_true hnewline]
    rfl
  · rw [(CodePoint.isInline_iff.mp hinline).2]
    rfl

end Text

namespace Shape

theorem at?_cons_of_part? {s x : Shape} {hop : Hop} (h : s.part? hop = some x)
    (route : List Hop) : s.at? (hop :: route) = x.at? route := by
  rw [at?, List.foldl_cons, Option.bind_some, h]
  rfl

/-- A shape that repeats no name names only classes that a route leads to. -/
theorem namesOnly_of_at? {q : Text → Bool} {s : Shape} (hs : s.isDistinct = true)
    (h : ∀ route node, s.at? route = some node → ∀ name ∈ node.classes.toList, q name = true) :
    s.namesOnly q = true := by
  induction s using part_induction with
  | node s ihElement ihMember =>
    rw [namesOnly_iff]
    refine ⟨h [] s rfl, fun x hx => ?_, fun ms hms name x hx => ?_⟩
    · refine ihElement x hx (isDistinct_element hs hx) fun route node hnode => ?_
      have hpart : s.part? .element = some x := hx
      exact h (.element :: route) node ((at?_cons_of_part? hpart route).trans hnode)
    · have hdistinct := ((isDistinct_iff.mp hs).2 ms hms).2 name x hx
      refine ihMember ms name x hms hx hdistinct fun route node hnode => ?_
      -- names are not repeated, so a route leads to every member
      have hpart : s.part? (.member name) = some x := by
        rw [part?, member?_eq_last? hs, hms]
        exact (Entries.last?_eq_some_iff (nodup_members hs hms)).mpr hx
      exact h (.member name :: route) node ((at?_cons_of_part? hpart route).trans hnode)

end Shape

/-! ## What is declared of a document -/

namespace Value

variable {s : Strategy} {v w : Value}

theorem kind?_ne_named_of_isPlain (h : v.isPlain = true) : v.kind? ≠ some .named := by
  cases v with
  | null | bool | int | float | text | list | dictionary => simp [kind?]
  | _ => cases h

/-- Whatever a route leads to can be written by documents if the value where it begins can. -/
theorem isPlain_advance {group : List Value} (htextual : ∀ w ∈ group, w.isTextual = true)
    (hg : ∀ w ∈ group, w.isPlain = true) (hop : Hop) :
    ∀ w ∈ advance s group hop, w.isPlain = true := by
  intro w hw
  cases hop with
  | element =>
    rw [advance_element, List.mem_flatMap] at hw
    obtain ⟨items, hitems, hw⟩ := hw
    obtain ⟨v, hv, h⟩ := List.mem_filterMap.mp hitems
    have hplain := hg v hv
    rcases items?_eq_some_iff.mp h with rfl | rfl
    · exact arePlain_iff.mp hplain w (Strategy.mem_of_mem_sampleFrom hw)
    · cases hplain
  | member name =>
    obtain ⟨v, hv, h⟩ := List.mem_filterMap.mp hw
    obtain ⟨entries, hentries, -⟩ := Option.bind_eq_some_iff.mp h
    obtain ⟨key, hkey, -⟩ := (valueAt?_eq_some_iff (htextual v hv) hentries).mp h
    have hplain := hg v hv
    obtain rfl := entries?_eq_some_iff.mp hentries
    exact (areEntriesPlain_iff.mp hplain key w hkey).2

theorem isPlain_group (htextual : v.isTextual = true) (hv : v.isPlain = true)
    (route : List Hop) : ∀ w ∈ v.group s route, w.isPlain = true := by
  induction route using List.reverseRecOn with
  | nil => simpa using hv
  | append_singleton route hop ih =>
    rw [group_snoc]
    exact isPlain_advance (isTextual_group htextual route) ih hop

/-- The shape of what a document writes names no class, so its classes pass any test. -/
theorem namesOnly_shapeOf (htextual : v.isTextual = true) (hv : v.isPlain = true)
    (q : Text → Bool) : (shapeOf s v).namesOnly q = true := by
  refine Shape.namesOnly_of_at? (isDistinct_shapeOf v) fun route node hnode name hname => ?_
  rcases at?_shapeOf (s := s) htextual route with hsome | ⟨hnone, -⟩
  · obtain rfl := Option.some.inj (hsome.symm.trans hnode)
    have hcontains : (totalAt s v route).classes.contains name = true :=
      List.contains_iff_mem.mpr hname
    -- only a value of the group could have a class to name
    obtain ⟨w, hw, hkind, -⟩ := ((summarises_totalAt htextual route).classes name).mp hcontains
    exact absurd hkind (kind?_ne_named_of_isPlain (isPlain_group htextual hv route w hw))
  · rw [hnone] at hnode
    cases hnode

end Value

namespace Json

/-- The keys of whatever is read are texts, each once. -/
theorem isKept_isTextual : IsKept fun v => v.isTextual = true where
  null := rfl
  bool _ := rfl
  int _ := rfl
  float _ := rfl
  text _ := rfl
  list _ h := Value.areTextual_iff.mpr h
  object members h := by
    have hnames : Value.namedEntries
        ((Entries.collapse (· = ·) members).map fun m => (.text m.1, m.2)) =
          Entries.collapse (· = ·) members := by
      rw [Value.namedEntries, List.map_map]
      exact List.map_id' _
    rw [objectOf, Value.isTextual, hnames, Bool.and_eq_true, decide_eq_true_iff,
      Value.areEntriesTextual_iff]
    refine ⟨Entries.nodup_collapse _, fun key v hv => ?_⟩
    obtain ⟨⟨name, w⟩, hmem, heq⟩ := List.mem_map.mp hv
    obtain ⟨rfl, rfl⟩ := Prod.mk.inj heq
    have hkey : (Value.text name).isTextKey = true :=
      (Bool.and_eq_true _ _).mpr ⟨rfl, decide_eq_true rfl⟩
    exact ⟨hkey, h _ (Entries.mem_of_mem_collapse hmem)⟩

/-- Whatever is read has what is kept. -/
theorem IsKept.readDocument {P : Value → Prop} (hP : IsKept P) {t : Text} {v : Value}
    (h : readDocument t = .ok v) : P v := by
  rcases readDocument_ends hP t with ⟨w, hw, hkept⟩ | ⟨flaw, hflaw, -⟩
  · rw [hw] at h
    exact Except.ok.inj h ▸ hkept
  · rw [hflaw] at h
    cases h

theorem IsKept.decode {P : Value → Prop} (hP : IsKept P) {t : Text} {v : Value}
    (h : decode t = .ok v) : P v := by
  unfold Json.decode at h
  split at h
  · cases h
  · exact hP.readDocument h

end Json

namespace Document

/-- **Whatever is loaded** has what is kept, in whatever form the document is given. -/
theorem load_kept {P : Value → Prop} (hP : Json.IsKept P) {document v : Value}
    (h : (load document).outcome = .ok v) : P v := by
  have htext : ∀ t, (ofText t).outcome = .ok v → P v :=
    fun t ht => hP.decode (ofDecoded_ok_iff.mp ht)
  unfold load at h
  split at h
  · exact htext _ h
  · unfold ofBytes at h
    split at h
    · exact htext _ h
    · cases h
  · unfold ofBuffer at h
    split at h
    · exact hP.readDocument (ofDecoded_ok_iff.mp h)
    · cases h
  · cases h

/-- What is inferred is the shape of what is loaded. -/
theorem inferWith_ok {s : Strategy} {document : Value} {t : Shape}
    (h : (inferWith s document).outcome = .ok t) :
    ∃ v, (load document).outcome = .ok v ∧ t = v.shapeOf s := by
  obtain ⟨v, hload, hclassify⟩ := classify_of_inferWith h
  obtain ⟨-, rfl⟩ := Value.classify_ok_iff.mp hclassify
  exact ⟨v, hload, rfl⟩

/-- What is inferred from a document names no class. -/
theorem namesOnly_of_inferWith {s : Strategy} {document : Value} {t : Shape}
    (h : (inferWith s document).outcome = .ok t) (q : Text → Bool) : t.namesOnly q = true := by
  obtain ⟨v, hload, rfl⟩ := inferWith_ok h
  exact Value.namesOnly_shapeOf (load_kept Json.isKept_isTextual hload)
    (load_kept Json.isKept_isPlain hload) q

/-- **What is declared of a document** can be written: half of a surrogate pair is escaped, and so
is a control character. -/
theorem isWritable_declaration {s : Strategy} {document : Value} {t : Shape} {name : Text}
    (h : (inferWith s document).outcome = .ok t) (hname : name.isTypeName = true)
    (indent : Nat) : (Declaration.write t name indent).isWritable = true := by
  have hshape : (t.writeAt indent 0).isWritable = true :=
    (Declaration.composes_isWritable indent).writeAt (namesOnly_of_inferWith h _) 0
  have hidentifier : name.isWritable = true := Text.isWritable_of_isInline
    (Text.isInline_of_isPlain (Text.isPlain_of_isIdentifier
      (Text.isIdentifier_of_isTypeName hname)))
  unfold Declaration.write Shape.write
  rw [Text.isWritable_append, Text.isWritable_append, Text.isWritable_append,
    Text.isWritable_append, hshape, hidentifier]
  decide

/-- What is declared of a document can be encoded. -/
theorem isEncodable_declaration {s : Strategy} {document : Value} {t : Shape} {name : Text}
    (h : (inferWith s document).outcome = .ok t) (hname : name.isTypeName = true)
    (indent : Nat) : (Declaration.write t name indent).isEncodable = true :=
  Text.isEncodable_of_isWritable (isWritable_declaration h hname indent)

/-- What is inferred is inferred with the strategy that was asked for. -/
theorem inferWith_of_infer {document strategy : Value} {t : Shape}
    (h : (infer document strategy).outcome = .ok t) :
    ∃ s, Strategy.ofValue strategy = .ok s ∧ (inferWith s document).outcome = .ok t :=
  Logged.bind_ok_iff.mp h

/-- A declaration has line feeds if the shape as it is written has: there are none in its name. -/
theorem newline_mem_declaration_iff {t : Shape} {name : Text} (hname : name.isIdentifier = true)
    (indent : Nat) : (('\n' : Char) : CodePoint) ∈ Declaration.write t name indent ↔
      (('\n' : Char) : CodePoint) ∈ t.writeAt indent 0 := by
  have hidentifier : (('\n' : Char) : CodePoint) ∉ name := Text.newline_not_mem_of_isInline
    (Text.isInline_of_isPlain (Text.isPlain_of_isIdentifier hname))
  have htype : (('\n' : Char) : CodePoint) ∉ ("type " : Text) := by decide
  have hequals : (('\n' : Char) : CodePoint) ∉ (" = " : Text) := by decide
  have hsemicolon : (('\n' : Char) : CodePoint) ∉ (";" : Text) := by decide
  simp [Declaration.write, Shape.write, hidentifier, htype, hequals, hsemicolon]

/-- **Declarations are safe to write.** What is declared of an inferred shape has no half of a
surrogate pair, so its bytes are read back as the same text, and no control character below the
space but line feeds. It has some exactly if the indent is positive and an object with members
stands somewhere in the shape. It is what is returned on request, whether an indent is given or not,
by a machine that has room for it: a request may fail on any other machine, and then there is no
text. -/
theorem declarations_are_safe_to_write {document strategy : Value} {t : Shape}
    (h : (infer document strategy).outcome = .ok t) {name : Text} (hname : name.isTypeName = true)
    {indentation : Value} {n : Nat} (hindent : Request.indent indentation = .ok n) :
    (∀ machine x, Request.declare machine (.shape t) (.text name) indentation = .ok x ↔
      machine.HasRoom t n ∧ x = Declaration.write t name n) ∧
    (∀ c ∈ Declaration.write t name n, c.isSurrogate = false ∧ (c.val < 0x20 → c = '\n')) ∧
    Utf8.decode (Utf8.encode (Declaration.write t name n)) = .ok (Declaration.write t name n) ∧
    ((('\n' : Char) : CodePoint) ∈ Declaration.write t name n ↔
      0 < n ∧ ∃ x : Shape, x.StandsIn t ∧ x.memberNames ≠ []) := by
  obtain ⟨s, -, hinferred⟩ := inferWith_of_infer h
  have hwritable := isWritable_declaration hinferred hname n
  refine ⟨fun machine x => Request.declare_ok_iff_hasRoom hname hindent, fun c hc => ?_,
    Utf8.decode_encode (isEncodable_declaration hinferred hname n), ?_⟩
  · -- what is not a line feed can stand in a line
    have hc : (c = '\n' || c.isInline) = true := List.all_eq_true.mp hwritable c hc
    rcases (Bool.or_eq_true _ _).mp hc with hnewline | hinline
    · obtain rfl := of_decide_eq_true hnewline
      exact ⟨rfl, fun _ => rfl⟩
    · obtain ⟨hprintable, hsurrogate⟩ := CodePoint.isInline_iff.mp hinline
      exact ⟨hsurrogate, fun hcontrol => absurd hcontrol (Nat.not_lt.mpr hprintable)⟩
  · rw [newline_mem_declaration_iff (Text.isIdentifier_of_isTypeName hname)]
    exact Shape.newline_mem_writeAt_iff (namesOnly_of_inferWith hinferred _) 0

/-- A document with a key that holds half of a surrogate pair and a line feed. -/
def documentOfHalfPair : Text :=
  "[\x7b\"\\ud800\\n\": null\x7d]"

/-- The shape of that document. -/
def shapeOfHalfPair : Shape :=
  .arrayOf (.objectOf [([⟨0xD800, by decide⟩, '\n'], .simple .null)])

theorem declarations_are_safe_to_write_of_half_pair :
    (infer (.text documentOfHalfPair) (.text "first")).outcome = .ok shapeOfHalfPair ∧
    Text.isTypeName "Rows" = true ∧ Request.indent (.int 2) = .ok (2 : Nat) ∧
    Declaration.write shapeOfHalfPair "Rows" 2
      = "type Rows = Array<\x7b\n  [\"\\ud800\\n\"]: null;\n\x7d>;" ∧
    Request.declare .boundless (.shape shapeOfHalfPair) (.text "Rows") (.int 2)
      = .ok (Declaration.write shapeOfHalfPair "Rows" 2) ∧
    Utf8.decode (Utf8.encode (Declaration.write shapeOfHalfPair "Rows" 2))
      = .ok (Declaration.write shapeOfHalfPair "Rows" 2) ∧
    ∃ x : Shape, x.StandsIn shapeOfHalfPair ∧ x.memberNames ≠ [] := by
  have hinfer : (infer (.text documentOfHalfPair) (.text "first")).outcome
      = .ok shapeOfHalfPair := by decide +kernel
  have hname : Text.isTypeName "Rows" = true := by decide
  have hindent : Request.indent (.int 2) = .ok (2 : Nat) := rfl
  obtain ⟨hdeclared, -, hread, hnewline⟩ := declarations_are_safe_to_write hinfer hname hindent
  have htext : Declaration.write shapeOfHalfPair "Rows" 2
      = "type Rows = Array<\x7b\n  [\"\\ud800\\n\"]: null;\n\x7d>;" := by decide
  have hroom : Machine.boundless.HasRoom shapeOfHalfPair 2 := ⟨rfl, by decide⟩
  have hlines : (('\n' : Char) : CodePoint) ∈ Declaration.write shapeOfHalfPair "Rows" 2 := by
    rw [htext]
    decide
  have hobject := (hnewline.mp hlines).2
  exact ⟨hinfer, hname, hindent, htext, (hdeclared _ _).mpr ⟨hroom, rfl⟩, hread, hobject⟩

end Document

end ShapeInference
