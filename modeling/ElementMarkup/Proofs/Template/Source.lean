import ElementMarkup.Proofs.Environment
import ElementMarkup.Proofs.Placeholder
import ElementMarkup.Proofs.Print.RoundTrip
import ElementMarkup.Proofs.Template.Syntax

/-!
# From fragments to markup

Joining the fragments of a template puts the mark of its number into each hole. What comes out is
the source of a markup tree, `markup 0 t`, whose texts hold the marks (`join_fragments`). So the
template is read as this tree (`parse_fragments`), and only the marks are left to be replaced.
-/

namespace ElementMarkup.Template

variable {ι : Type}

/-! ## Marks in holes -/

/-- The symbols as characters, with the marks of the numbers from `k` on in the holes. -/
def render (k : Nat) : List (Symbol ι) → List Char
  | [] => []
  | .char c :: symbols => c :: render k symbols
  | .hole _ :: symbols => Placeholder.token k ++ render (k + 1) symbols

/-- Lines as characters, with the marks of the numbers from `k` on in the holes. -/
def renderLines (k : Nat) : List (List (Symbol ι)) → List (List Char)
  | [] => []
  | line :: more => render k line :: renderLines (k + (itemsIn line).length) more

/-- No symbols hold no items. -/
@[simp] theorem items_in_nil : itemsIn ([] : List (Symbol ι)) = [] :=
  rfl

/-- Items of symbols in a row. -/
@[simp] theorem items_in_append (first second : List (Symbol ι)) :
    itemsIn (first ++ second) = itemsIn first ++ itemsIn second :=
  List.filterMap_append

/-- A character holds no item. -/
@[simp] theorem items_in_char (c : Char) (symbols : List (Symbol ι)) :
    itemsIn (.char c :: symbols) = itemsIn symbols :=
  rfl

/-- A hole holds its item. -/
@[simp] theorem items_in_hole (item : CallTree ι) (symbols : List (Symbol ι)) :
    itemsIn (.hole item :: symbols) = item :: itemsIn symbols :=
  rfl

/-- Characters hold no items. -/
@[simp] theorem items_in_chars (cs : List Char) : itemsIn (chars cs : List (Symbol ι)) = [] := by
  induction cs with
  | nil => rfl
  | cons c cs ih => exact ih

/-- Characters are rendered as they are. -/
@[simp] theorem render_chars (k : Nat) (cs : List Char) :
    render k (chars cs : List (Symbol ι)) = cs := by
  induction cs with
  | nil => rfl
  | cons c cs ih => exact congrArg (List.cons c) ih

/-- Symbols in a row are rendered in a row, with numbers that go on. -/
theorem render_append (k : Nat) (first second : List (Symbol ι)) :
    render k (first ++ second) =
      render k first ++ render (k + (itemsIn first).length) second := by
  induction first generalizing k with
  | nil => rfl
  | cons symbol first ih =>
      cases symbol with
      | char c => exact congrArg (List.cons c) (ih k)
      | hole item =>
          rw [List.cons_append, render, ih, render, List.append_assoc, items_in_hole,
            List.length_cons, Nat.add_right_comm, Nat.add_assoc]

/-- Lines in a row are rendered in a row, with numbers that go on. -/
theorem render_lines_append (k : Nat) (first second : List (List (Symbol ι))) :
    renderLines k (first ++ second) =
      renderLines k first ++ renderLines (k + (itemsIn first.flatten).length) second := by
  induction first generalizing k with
  | nil => rfl
  | cons line first ih =>
      rw [List.cons_append, renderLines, ih, renderLines, List.flatten_cons, items_in_append,
        List.length_append, Nat.add_assoc]
      rfl

/-- Lines that are joined are rendered line by line. -/
theorem render_intercalate (k : Nat) (separator : List Char) (parts : List (List (Symbol ι))) :
    render k ((chars separator).intercalate parts) =
      separator.intercalate (renderLines k parts) := by
  induction parts generalizing k with
  | nil => rfl
  | cons part parts ih =>
      cases parts with
      | nil => simp [renderLines]
      | cons next parts =>
          rw [List.intercalate_cons_cons, render_append, render_append, ih, render_chars]
          simp [renderLines]

/-- Joining lines adds no items. -/
theorem items_in_intercalate (separator : List Char) (parts : List (List (Symbol ι))) :
    itemsIn ((chars separator).intercalate parts) = itemsIn parts.flatten := by
  induction parts with
  | nil => rfl
  | cons part parts ih =>
      cases parts with
      | nil => simp
      | cons next parts =>
          rw [List.intercalate_cons_cons, items_in_append, items_in_append, ih, items_in_chars,
            List.append_nil, ← items_in_append]
          rfl

/-! ## Joining fragments -/

/-- A text is cut into one piece more than it has holes. -/
theorem length_cut (symbols : List (Symbol ι)) :
    (cut symbols).length = (itemsIn symbols).length + 1 := by
  induction symbols with
  | nil => rfl
  | cons symbol symbols ih =>
      cases symbol with
      | char c => rw [cut, List.length_modifyHead, ih, items_in_char]
      | hole item => rw [cut, List.length_cons, ih, items_in_hole, List.length_cons]

/-- Joining the pieces with marks renders the text. -/
theorem join_from_cut (k : Nat) (symbols : List (Symbol ι)) :
    Fragments.joinFrom k (k + (itemsIn symbols).length) ((cut symbols).map String.ofList) =
      render k symbols := by
  induction symbols generalizing k with
  | nil => simp [cut, Fragments.joinFrom, render, itemsIn]
  | cons symbol symbols ih =>
      cases symbol with
      | char c =>
          have hne : cut symbols ≠ [] := List.ne_nil_of_length_eq_add_one (length_cut symbols)
          obtain ⟨piece, pieces, hcut⟩ := List.exists_cons_of_ne_nil hne
          have hmore := ih k
          rw [hcut] at hmore
          rw [cut, hcut, items_in_char, render, ← hmore]
          simp [Fragments.joinFrom]
      | hole item =>
          have hmore := ih (k + 1)
          rw [Nat.add_right_comm] at hmore
          rw [cut, render, items_in_hole, List.length_cons, ← Nat.add_assoc, List.map_cons,
            Fragments.joinFrom, if_pos (by omega), hmore]
          rfl

/-! ## The markup tree -/

/-- The value of an attribute with marks in its holes. -/
def scalar (k : Nat) : Setting ι → Scalar
  | .integer value => .integer value
  | .boolean value => .boolean value
  | .parts parts => .text (String.ofList (render k (partsSymbols parts)))

/-- The attributes of a tag with marks in their holes. -/
def attributes (k : Nat) : List (String × Setting ι) → List Attribute
  | [] => []
  | pair :: settings =>
    ⟨pair.1, scalar k pair.2⟩ ::
      attributes (k + (itemsIn (settingSymbols pair.2)).length) settings

/-- The items in the attributes of a tag. -/
def settingItems (settings : List (String × Setting ι)) : List (CallTree ι) :=
  settings.flatMap fun pair => itemsIn (settingSymbols pair.2)

mutual

/-- The items in a node. -/
def holes : Template ι → List (CallTree ι)
  | tag _ settings children => settingItems settings ++ holesOf children
  | text parts => itemsIn (partsSymbols parts)

/-- The items in several nodes. -/
def holesOf : List (Template ι) → List (CallTree ι)
  | [] => []
  | node :: nodes => holes node ++ holesOf nodes

end

mutual

/-- The markup of a node with the marks of the numbers from `k` on in its holes. -/
def markup (k : Nat) : Template ι → Markup
  | tag name settings children =>
    .tag .unknown name (attributes k settings) (some .unknown)
      (markupOf (k + (settingItems settings).length) children)
  | text parts => .text .unknown (String.ofList (render k (partsSymbols parts)))

/-- The markup of several nodes. -/
def markupOf (k : Nat) : List (Template ι) → List Markup
  | [] => []
  | node :: nodes => markup k node :: markupOf (k + (holes node).length) nodes

end

/-- Plain characters are not escaped. -/
theorem escape_plain {cs : List Char} (h : ∀ c ∈ cs, ¬ (c = '\\' ∨ c = '"')) (rest : List Char) :
    Print.escape (cs ++ rest) = cs ++ Print.escape rest := by
  induction cs with
  | nil => rfl
  | cons c cs ih =>
      rw [List.cons_append, Print.escape, if_neg (h c List.mem_cons_self),
        ih fun d hd => h d (List.mem_cons_of_mem _ hd)]
      rfl

/-- Marks may be put into the holes before or after escaping. -/
theorem render_escape (k : Nat) (symbols : List (Symbol ι)) :
    render k (escape symbols) = Print.escape (render k symbols) := by
  induction symbols generalizing k with
  | nil => rfl
  | cons symbol symbols ih =>
      cases symbol with
      | char c =>
          rw [escape, render, Print.escape]
          split
          · rw [render, render, ih]
          · rw [render, ih]
      | hole item =>
          have hplain : ∀ c ∈ Placeholder.token k, ¬ (c = '\\' ∨ c = '"') := by
            rintro c hc (rfl | rfl) <;> exact absurd (Placeholder.mem_token hc) (by decide)
          rw [escape, render, render, escape_plain hplain, ih]

/-- Escaping leaves the items alone. -/
@[simp] theorem items_in_escape (symbols : List (Symbol ι)) :
    itemsIn (escape symbols) = itemsIn symbols := by
  induction symbols with
  | nil => rfl
  | cons symbol symbols ih =>
      cases symbol with
      | char c =>
          rw [escape]
          split <;> exact ih
      | hole item => exact congrArg (List.cons item) ih

/-! ## Lines of the markup tree -/

/-- The value of an attribute is rendered as the value with marks is written. -/
theorem render_setting_symbols (k : Nat) (setting : Setting ι) :
    render k (settingSymbols setting) = Print.valueText (scalar k setting) := by
  cases setting with
  | integer value => exact render_chars k _
  | boolean value => cases value <;> rfl
  | parts parts =>
      rw [settingSymbols, render_append]
      show '"' :: render k (escape (partsSymbols parts)) ++ ['"'] = _
      rw [render_escape, scalar, Print.valueText, String.toList_ofList]

/-- An attribute is rendered as the attribute with marks is written. -/
theorem render_pair_symbols (k : Nat) (pair : String × Setting ι) :
    render k (pairSymbols pair) = Print.attributeText ⟨pair.1, scalar k pair.2⟩ := by
  rw [pairSymbols, render_append, render_chars, items_in_chars, render]
  show _ ++ '=' :: render k (settingSymbols pair.2) = _
  rw [render_setting_symbols]
  rfl

/-- The items of an attribute are those of its value. -/
theorem items_in_pair_symbols (pair : String × Setting ι) :
    itemsIn (pairSymbols pair) = itemsIn (settingSymbols pair.2) := by
  rw [pairSymbols, items_in_append, items_in_chars]
  rfl

/-- The attributes of a tag are rendered one by one. -/
theorem render_lines_pair_symbols (k : Nat) (settings : List (String × Setting ι)) :
    renderLines k (settings.map pairSymbols) =
      (attributes k settings).map Print.attributeText := by
  induction settings generalizing k with
  | nil => rfl
  | cons pair settings ih =>
      rw [List.map_cons, renderLines, render_pair_symbols, items_in_pair_symbols, ih]
      rfl

/-- The items of a tag's line are those of its attributes. -/
theorem items_in_head_symbols (name : String) (settings : List (String × Setting ι)) :
    itemsIn (headSymbols name settings) = settingItems settings := by
  have hpairs : itemsIn (settings.map pairSymbols).flatten = settingItems settings := by
    induction settings with
    | nil => rfl
    | cons pair settings ih =>
        rw [List.map_cons, List.flatten_cons, items_in_append, ih, items_in_pair_symbols]
        rfl
  have hjoined := items_in_intercalate [',', ' '] (settings.map pairSymbols)
  rw [headSymbols, items_in_append, items_in_append, items_in_chars, items_in_char, ← hpairs]
  simpa [chars] using hjoined

/-- The line of a tag is rendered as the tag with marks is written. -/
theorem render_head_symbols (k : Nat) (name : String) (settings : List (String × Setting ι)) :
    render k (headSymbols name settings) =
      Print.tagHead name.toList (attributes k settings) := by
  have hjoined := render_intercalate k [',', ' '] (settings.map pairSymbols)
  rw [render_lines_pair_symbols] at hjoined
  rw [headSymbols, render_append, render_append, render_chars, items_in_chars]
  show name.toList ++ '(' :: render k ((chars [',', ' ']).intercalate _) ++ [')'] = _
  rw [hjoined]
  rfl

/-- Indentation is rendered as it is. -/
theorem render_indented (k level : Nat) (content : List (Symbol ι)) :
    render k (indented level content) = Print.indented 2 level (render k content) := by
  rw [indented, render_append, render_chars, items_in_chars]
  rfl

/-- Indentation adds no items. -/
theorem items_in_indented (level : Nat) (content : List (Symbol ι)) :
    itemsIn (indented level content) = itemsIn content := by
  rw [indented, items_in_append, items_in_chars]
  rfl

mutual

/-- The items in the lines of a node. -/
theorem items_in_lines (level : Nat) (node : Template ι) :
    itemsIn (lines level node).flatten = holes node := by
  match node with
  | .tag name settings children =>
      rw [lines, List.flatten_cons, items_in_append, items_in_indented, items_in_head_symbols,
        items_in_lines_of]
      rfl
  | .text parts =>
      rw [lines, List.flatten_singleton, items_in_indented]
      rfl

/-- The items in the lines of several nodes. -/
theorem items_in_lines_of (level : Nat) (nodes : List (Template ι)) :
    itemsIn (linesOf level nodes).flatten = holesOf nodes := by
  match nodes with
  | [] => rfl
  | node :: nodes =>
      rw [linesOf, List.flatten_append, items_in_append, items_in_lines, items_in_lines_of]
      rfl

end

mutual

/-- The lines of a node are rendered as the node with marks is written. -/
theorem render_lines_lines (k level : Nat) (node : Template ι) :
    renderLines k (lines level node) = Print.lines 2 level (markup k node) := by
  match node with
  | .tag name settings children =>
      rw [lines, renderLines, render_indented, render_head_symbols, items_in_indented,
        items_in_head_symbols, render_lines_lines_of]
      rfl
  | .text parts =>
      rw [lines, renderLines, render_indented, markup, Print.lines, String.toList_ofList]
      rfl

/-- The lines of several nodes are rendered as the nodes with marks are written. -/
theorem render_lines_lines_of (k level : Nat) (nodes : List (Template ι)) :
    renderLines k (linesOf level nodes) = Print.linesOf 2 level (markupOf k nodes) := by
  match nodes with
  | [] => rfl
  | node :: nodes =>
      rw [linesOf, render_lines_append, render_lines_lines, items_in_lines, render_lines_lines_of]
      rfl

end

/-- The interpolations of a template are the items in its holes, node by node. -/
theorem interpolations_eq (t : Template ι) : t.interpolations = holes t := by
  have hitems := items_in_intercalate ['\n'] (lines 0 t)
  rw [items_in_lines] at hitems
  exact hitems

/-- Joining the fragments of a template writes its markup tree. -/
theorem join_fragments (t : Template ι) :
    Fragments.join t.fragments t.interpolations.length =
      (Print.source 2 [markup 0 t]).toList := by
  have hjoin := join_from_cut 0 t.symbols
  have hrender := render_intercalate 0 ['\n'] (lines 0 t)
  rw [render_lines_lines] at hrender
  rw [Nat.zero_add] at hjoin
  rw [Fragments.join, fragments, interpolations, hjoin, Print.source, String.toList_ofList,
    Print.linesOf, Print.linesOf, List.append_nil]
  exact hrender

/-! ## Reading the fragments -/

/-- The marks in a text add no line end. -/
theorem is_line_text_render {parts : List (Part ι)} (h : areParts parts = true) (k : Nat) :
    Print.isLineText (render k (partsSymbols parts)) = true := by
  induction parts generalizing k with
  | nil => rfl
  | cons part parts ih =>
      rw [partsSymbols, List.flatMap_cons, render_append, Print.is_line_text_append,
        Bool.and_eq_true]
      cases part with
      | hole item =>
          rw [areParts, Bool.and_eq_true] at h
          refine ⟨?_, ih h.2 _⟩
          rw [partSymbols, render, render, List.append_nil, Print.is_line_text_iff]
          constructor <;> intro hc <;> exact absurd (Placeholder.mem_token hc) (by decide)
      | literal value =>
          simp only [areParts, isLiteral, Bool.and_eq_true] at h
          refine ⟨?_, ih h.2 _⟩
          rw [partSymbols, render_chars]
          exact h.1.1.1.2

/-- The attributes of a well-formed tag can be written with marks in their holes. -/
theorem is_attribute_attributes {settings : List (String × Setting ι)}
    (h : settings.all isPair = true) (k : Nat) :
    (attributes k settings).all Print.isAttribute = true := by
  induction settings generalizing k with
  | nil => rfl
  | cons pair settings ih =>
      rw [List.all_cons, Bool.and_eq_true, isPair, Bool.and_eq_true] at h
      rw [attributes, List.all_cons, ih h.2, Bool.and_true, Print.isAttribute, h.1.1,
        Bool.true_and]
      have hsetting := h.1.2
      cases hvalue : pair.2 with
      | integer value =>
          rw [hvalue] at hsetting
          exact hsetting
      | boolean value => rfl
      | parts parts =>
          rw [hvalue] at hsetting
          rw [scalar, Print.isValue, String.toList_ofList]
          exact is_line_text_render hsetting k

variable {propertyNames : Entries String}

mutual

/-- The markup tree of a well-formed template can be written and includes no other template. -/
theorem is_printable_markup {node : Template ι} (h : isWellFormed propertyNames node = true)
    (k : Nat) : Print.isPrintable (markup k node) = true ∧ Print.paths (markup k node) = [] := by
  match node with
  | .tag name settings children =>
      simp only [isWellFormed, Bool.and_eq_true] at h
      obtain ⟨⟨⟨hname, hsettings⟩, _⟩, hchildren⟩ := h
      have hinside := are_printable_markup_of hchildren (k + (settingItems settings).length)
      refine ⟨?_, hinside.2⟩
      rw [markup, Print.isPrintable, hname, is_attribute_attributes hsettings, hinside.1]
      rfl
  | .text parts =>
      refine ⟨?_, rfl⟩
      rw [markup, Print.isPrintable, String.toList_ofList]
      exact is_line_text_render h k

/-- The markup trees of well-formed templates can be written and include no other template. -/
theorem are_printable_markup_of {nodes : List (Template ι)}
    (h : areWellFormed propertyNames nodes = true) (k : Nat) :
    Print.arePrintable (markupOf k nodes) = true ∧ Print.pathsOf (markupOf k nodes) = [] := by
  match nodes with
  | [] => exact ⟨rfl, rfl⟩
  | node :: nodes =>
      rw [areWellFormed, Bool.and_eq_true] at h
      obtain ⟨hfirst, hpaths⟩ := is_printable_markup h.1 k
      obtain ⟨hmore, hmorePaths⟩ := are_printable_markup_of h.2 (k + (holes node).length)
      rw [markupOf, Print.arePrintable, Print.pathsOf, hfirst, hpaths, hmore, hmorePaths]
      exact ⟨rfl, rfl⟩

end

/-- The source of a tag starts with the name of the tag. -/
theorem source_tag_eq_cons {name : String} (hname : Print.isTagName name.toList = true)
    (as : List Attribute) (children : List Markup) :
    ∃ c rest, Line.isTagChar c = true ∧
      (Print.source 2 [.tag .unknown name as (some .unknown) children]).toList = c :: rest := by
  cases hchars : name.toList with
  | nil =>
      rw [hchars] at hname
      cases hname
  | cons c cs =>
      refine ⟨c, ?_⟩
      have hc : Line.isTagChar c = true :=
        Print.is_tag_char_of_mem hname (by rw [hchars]; exact List.mem_cons_self)
      rw [Print.source, String.toList_ofList, Print.linesOf, Print.lines, Print.linesOf,
        List.append_nil, hchars, Text.joinWith]
      cases Print.linesOf 2 (0 + 1) children with
      | nil =>
          rw [List.intercalate_singleton]
          exact ⟨_, hc, rfl⟩
      | cons line more =>
          rw [List.intercalate_cons_cons]
          exact ⟨_, hc, rfl⟩

/-- The fragments of a template with a tag at its root are joined into the source of its markup
tree. -/
theorem encode_fragments {name : String} (hname : Print.isTagName name.toList = true)
    (settings : List (String × Setting ι)) (children : List (Template ι)) :
    let t := tag name settings children
    Fragments.encode t.fragments t.interpolations.length =
      pure (Print.source 2 [markup 0 t]) := by
  intro t
  have hlength : t.fragments.length = t.interpolations.length + 1 := by
    rw [fragments, List.length_map, length_cut]
    rfl
  have hnonempty : t.fragments.isEmpty = false := by
    rw [List.isEmpty_eq_false_iff]
    exact List.ne_nil_of_length_eq_add_one hlength
  -- The root stands at the margin, since its line starts with the name of the tag.
  have hmargin : Fragments.deindent (Print.source 2 [markup 0 t]).toList =
      (Print.source 2 [markup 0 t]).toList := by
    obtain ⟨c, rest, hc, hsource⟩ := source_tag_eq_cons hname (attributes 0 settings)
      (markupOf (0 + (settingItems settings).length) children)
    rw [markup, hsource]
    exact Fragments.deindent_of_starts_at_margin
      (Fragments.starts_at_margin_cons (Print.is_blank_of_is_tag_char hc))
  rw [Fragments.encode, hnonempty, if_neg (not_not.mpr hlength), join_fragments, hmargin,
    String.ofList_toList]
  rfl

end ElementMarkup.Template
