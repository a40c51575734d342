import StripedMerkle.Path.Json
import StripedMerkle.Proofs.JsonText
import Mathlib.Data.List.Forall2

/-!
# The JSON form of a path

The compact text of a path is `{"leaf_hash":h,"root_hash":h,"nodes":[h,...],"leaf_index":n}`,
every digest written as 64 lowercase hexadecimal digits (`Path.toJsonText_shape`), and reading
that text back gives the path (`Path.read_toJsonText`, `Path.ofJson_read_toJsonText`). The reader
is followed field by field over the bytes of the text, cut where it takes its steps
(`Path.textBytes_toJsonText`).

In the other direction, an object whose four fields are digests in hexadecimal of either case and
a natural index reads as the path of those digests, and writing that path gives the four fields
again with the digits lowercased (`Path.ofJson_of_hex`). Reading looks up the four keys and
nothing else, so any other key of the object is dropped on the way back.

Main statement: `path_json_round_trip`.
-/

namespace StripedMerkle

open Json

/-! ## The written text -/

/-- A hexadecimal digit is a plain character inside a string. -/
theorem isPlainChar_of_isHexDigit {c : Char} (digit : c.isHexDigit) : isPlainChar c := by
  have ascii := Hex.toNat_lt_of_isHexDigit digit
  have table : ∀ k, k < 128 → (Char.ofNat k).isHexDigit → isPlainChar (Char.ofNat k) := by
    decide
  simpa using table c.toNat ascii (by simpa using digit)

theorem Digest.toHex_plain (digest : Digest) : ∀ c ∈ digest.toHex.toList, isPlainChar c :=
  fun c mem => isPlainChar_of_isHexDigit (digest.toHex_digits c mem).1

theorem Digest.map_toHex_plain (digests : List Digest) :
    ∀ text ∈ digests.map Digest.toHex, ∀ c ∈ text.toList, isPlainChar c := by
  simpa using fun digest _ => digest.toHex_plain

/-- The four keys of a path's object are plain text. -/
theorem path_keys_plain :
    (∀ c ∈ "leaf_hash".toList, isPlainChar c) ∧ (∀ c ∈ "root_hash".toList, isPlainChar c) ∧
      (∀ c ∈ "nodes".toList, isPlainChar c) ∧ (∀ c ∈ "leaf_index".toList, isPlainChar c) := by
  simp [isPlainChar]

/-- An array of strings is written as the quoted strings separated by commas. -/
theorem renderItems_strings (texts : List String) :
    renderItems (texts.map .string) = ",".intercalate (texts.map quote) := by
  induction texts with
  | nil => rfl
  | cons text rest ih =>
    cases rest with
    | nil => simp [renderItems, Value.render]
    | cons next rest =>
      simp only [List.map_cons] at ih ⊢
      rw [renderItems, ih, String.intercalate_cons_cons, Value.render, String.append_assoc]
      exact List.cons_ne_nil _ _

/-- The compact text of a path: its four fields in the written order, every digest between
quotes. -/
theorem Path.toJsonText_eq (path : Path) :
    path.toJsonText = "\x7b" ++ quote "leaf_hash" ++ ":" ++ quote path.leaf.toHex ++ "," ++
      quote "root_hash" ++ ":" ++ quote path.root.toHex ++ "," ++ quote "nodes" ++ ":" ++
      "[" ++ ",".intercalate (path.nodes.map fun node => quote node.toHex) ++ "]" ++ "," ++
      quote "leaf_index" ++ ":" ++ toString path.index.toNat ++ "\x7d" := by
  have items : path.nodes.map (fun node => Value.string node.toHex) =
      (path.nodes.map Digest.toHex).map .string := by
    simp
  rw [toJsonText, toJson]
  simp only [Value.render, renderFields, Number.render]
  rw [items, renderItems_strings, List.map_map]
  simp only [String.append_assoc]
  rfl

/-- The compact text of a path with every digest written out as its hexadecimal digits between
quotes. -/
theorem Path.toJsonText_shape (path : Path) :
    path.toJsonText = "\x7b\"leaf_hash\":\"" ++ path.leaf.toHex ++ "\",\"root_hash\":\"" ++
      path.root.toHex ++ "\",\"nodes\":[" ++
      ",".intercalate (path.nodes.map fun node => "\"" ++ node.toHex ++ "\"") ++
      "],\"leaf_index\":" ++ toString path.index.toNat ++ "\x7d" := by
  have nodes : path.nodes.map (fun node => quote node.toHex) =
      path.nodes.map fun node => "\"" ++ node.toHex ++ "\"" :=
    List.map_congr_left fun node _ => quote_of_plain node.toHex_plain
  rw [toJsonText_eq, nodes, quote_of_plain path.leaf.toHex_plain,
    quote_of_plain path.root.toHex_plain, quote_of_plain path_keys_plain.1,
    quote_of_plain path_keys_plain.2.1, quote_of_plain path_keys_plain.2.2.1,
    quote_of_plain path_keys_plain.2.2.2, ← String.toList_inj]
  simp

/-- Texts of plain characters between quotes and separated by commas are the bytes of the items
of an array. -/
theorem textBytes_intercalate_quote {texts : List String}
    (plain : ∀ text ∈ texts, ∀ c ∈ text.toList, isPlainChar c) :
    textBytes (",".intercalate (texts.map quote)) = itemsBytes texts := by
  induction texts with
  | nil => rfl
  | cons text rest ih =>
    simp only [List.mem_cons, forall_eq_or_imp] at plain
    cases rest with
    | nil => simp [itemsBytes, textBytes_quote plain.1]
    | cons next rest =>
      have comma : textBytes "," = [44] := rfl
      rw [List.map_cons, List.map_cons, String.intercalate_cons_cons, ← List.map_cons,
        textBytes_append, textBytes_append, ih plain.2, textBytes_quote plain.1, comma]
      simp [itemsBytes]

/-- The bytes of the compact text of a path, cut where the reader takes its steps: the opening
brace, each field's key and value, and the closing brace behind the index. -/
theorem Path.textBytes_toJsonText (path : Path) :
    textBytes path.toJsonText =
      123 :: (fieldBytes true "leaf_hash" ++ quotedBytes path.leaf.toHex ++
        fieldBytes false "root_hash" ++ quotedBytes path.root.toHex ++
        fieldBytes false "nodes" ++ (91 :: (itemsBytes (path.nodes.map Digest.toHex) ++ [93])) ++
        fieldBytes false "leaf_index" ++ (textBytes (toString path.index.toNat) ++ [125])) := by
  have opening : textBytes "\x7b" = [123] := rfl
  have colon : textBytes ":" = [58] := rfl
  have comma : textBytes "," = [44] := rfl
  have bracket : textBytes "[" = [91] := rfl
  have closingBracket : textBytes "]" = [93] := rfl
  have closing : textBytes "\x7d" = [125] := rfl
  have nodes : path.nodes.map (fun node => quote node.toHex) =
      (path.nodes.map Digest.toHex).map quote := by
    simp
  rw [toJsonText_eq, nodes]
  simp only [textBytes_append, opening, colon, comma, bracket, closingBracket, closing,
    textBytes_quote path.leaf.toHex_plain, textBytes_quote path.root.toHex_plain,
    textBytes_quote path_keys_plain.1, textBytes_quote path_keys_plain.2.1,
    textBytes_quote path_keys_plain.2.2.1, textBytes_quote path_keys_plain.2.2.2,
    textBytes_intercalate_quote (Digest.map_toHex_plain path.nodes)]
  simp [fieldBytes]

/-! ## Reading the written text -/

/-- The reader's fuel covers the text of a path: one unit for the object, one for each field and
for the value of each, and one for each item of the nodes. -/
theorem Path.fuel_toJsonText (path : Path) :
    ∃ fuel, 2 * path.toJsonText.toUTF8.size + 2 = fuel + path.nodes.length + 5 + 1 := by
  have items := length_le_itemsBytes (path.nodes.map Digest.toHex)
  rw [List.length_map] at items
  have enough : path.nodes.length + 4 ≤ 2 * path.toJsonText.toUTF8.size := by
    simp only [(startsWith_textBytes path.toJsonText).2, path.textBytes_toJsonText,
      List.length_cons, List.length_append, List.length_nil]
    omega
  obtain ⟨fuel, spare⟩ := Nat.exists_eq_add_of_le enough
  exact ⟨fuel, by omega⟩

/-- Reading the compact text of a path gives its object back, the fields sorted by key. -/
theorem Path.read_toJsonText (path : Path) :
    ∃ fields, path.toJson = .object fields ∧
      Value.read path.toJsonText.toUTF8 = .ok (.object (Value.sortedFields fields)) := by
  refine ⟨_, rfl, read_of_readValue ?_⟩
  -- the text, cut where the reader takes its steps
  obtain ⟨whole, size⟩ := startsWith_textBytes path.toJsonText
  rw [path.textBytes_toJsonText] at whole size
  simp only [List.append_assoc] at whole
  obtain ⟨opening, whole⟩ := startsWith_cons.mp whole
  obtain ⟨leafKey, whole⟩ := startsWith_append.mp whole
  obtain ⟨leafValue, whole⟩ := startsWith_append.mp whole
  obtain ⟨rootKey, whole⟩ := startsWith_append.mp whole
  obtain ⟨rootValue, whole⟩ := startsWith_append.mp whole
  obtain ⟨nodesKey, whole⟩ := startsWith_append.mp whole
  obtain ⟨nodesValue, whole⟩ := startsWith_append.mp whole
  obtain ⟨indexKey, indexValue⟩ := startsWith_append.mp whole
  have closing := (startsWith_cons.mp (startsWith_append.mp indexValue).2).1
  obtain ⟨fuel, budget⟩ := path.fuel_toJsonText
  rw [budget, show (128 : Nat) = 125 + 1 + 2 from rfl]
  refine readValue_object opening ?_
  have leaf := readValue_string path.leaf.toHex_plain leafValue (fuel + path.nodes.length + 3)
    (125 + 2)
  have root := readValue_string path.root.toHex_plain rootValue (fuel + path.nodes.length + 2)
    (125 + 2)
  have nodes := readValue_strings _ (Digest.map_toHex_plain path.nodes) nodesValue fuel 125
  have index := readValue_natural path.index indexValue (by decide) (fuel + path.nodes.length)
    (125 + 2)
  rw [List.length_map] at nodes
  -- one field at a time, each spending one unit of fuel besides its value's
  rw [show 125 + 1 + 1 = 125 + 2 from rfl,
    show fuel + path.nodes.length + 5 = fuel + path.nodes.length + 3 + 1 + 1 by omega,
    readFields_field path_keys_plain.1 [] leafKey leaf,
    show fuel + path.nodes.length + 3 + 1 = fuel + path.nodes.length + 2 + 1 + 1 by omega,
    readFields_field path_keys_plain.2.1 _ rootKey root,
    readFields_field path_keys_plain.2.2.1 _ nodesKey nodes,
    show fuel + path.nodes.length + 2 = fuel + path.nodes.length + 1 + 1 by omega,
    readFields_field path_keys_plain.2.2.2 _ indexKey index, readFields_close _ closing]
  simp only [List.reverse_cons, List.reverse_nil, List.nil_append, List.cons_append,
    List.map_map, Function.comp_def, size, List.length_cons, List.length_append,
    List.length_nil, Except.ok.injEq, Prod.mk.injEq, true_and]
  omega

/-! ## Paths from objects -/

namespace Path

/-- Strings that each spell a digest spell the list of those digests. -/
theorem mapM_digestOfText {texts : List String} {digests : List Digest}
    (spelled : List.Forall₂ (fun text digest => Digest.ofHex? text = .ok digest) texts digests) :
    texts.mapM digestOfText = .ok digests := by
  induction spelled with
  | nil => rfl
  | cons first _ ih =>
    simp [digestOfText, first, ih, Except.mapError, bind, Except.bind, pure, Except.pure]

/-- An array of strings is the list of its strings. -/
theorem mapM_textOfJson (texts : List String) :
    (texts.map .string).mapM textOfJson = .ok texts := by
  induction texts with
  | nil => rfl
  | cons text rest ih => simp [textOfJson, ih, bind, Except.bind, pure, Except.pure]

/-- An array of strings that each spell a digest reads as the list of those digests. -/
theorem digestsOfJson_strings {texts : List String} {digests : List Digest}
    (spelled : List.Forall₂ (fun text digest => Digest.ofHex? text = .ok digest) texts digests) :
    digestsOfJson (.array (texts.map .string)) = .ok digests := by
  rw [digestsOfJson, mapM_textOfJson]
  exact mapM_digestOfText spelled

/-- An object reads as the path whose digests its three hexadecimal fields spell and whose index
is its natural `leaf_index`. -/
theorem ofFields_eq {fields : List (String × Value)} {leafText rootText : String}
    {nodeTexts : List String} {path : Path}
    (leafField : Value.field? fields "leaf_hash" = some (.string leafText))
    (leaf : Digest.ofHex? leafText = .ok path.leaf)
    (rootField : Value.field? fields "root_hash" = some (.string rootText))
    (root : Digest.ofHex? rootText = .ok path.root)
    (nodesField : Value.field? fields "nodes" = some (.array (nodeTexts.map .string)))
    (nodes : List.Forall₂ (fun text digest => Digest.ofHex? text = .ok digest) nodeTexts path.nodes)
    (indexField : Value.field? fields "leaf_index" = some (.number (.natural path.index))) :
    ofFields fields = .ok path := by
  simp [ofFields, leafField, rootField, nodesField, indexField, digestOfJson,
    digestsOfJson_strings nodes, indexOfJson, textOfJson, digestOfText, leaf, root, required,
    Except.mapError, bind, Except.bind, pure, Except.pure, Functor.map, Except.map]

/-- The texts of digests spell the digests. -/
theorem forall₂_ofHex?_toHex (digests : List Digest) :
    List.Forall₂ (fun text digest => Digest.ofHex? text = .ok digest)
      (digests.map Digest.toHex) digests :=
  List.forall₂_map_left_iff.mpr (List.forall₂_same.mpr fun digest _ => digest.ofHex?_toHex)

/-- The object of a path reads as the path. -/
theorem ofJson_toJson (path : Path) : ofJson path.toJson = .ok path :=
  ofFields_eq rfl path.leaf.ofHex?_toHex rfl path.root.ofHex?_toHex
    (by rw [List.map_map]; rfl) (forall₂_ofHex?_toHex path.nodes) rfl

/-- The compact text of a path reads as a value that reads as the path. -/
theorem ofJson_read_toJsonText (path : Path) :
    ∃ value, Value.read path.toJsonText.toUTF8 = .ok value ∧ ofJson value = .ok path := by
  obtain ⟨fields, written, read⟩ := path.read_toJsonText
  refine ⟨_, read, ?_⟩
  rw [toJson, Value.object.injEq] at written
  subst written
  -- sorting by key leaves each of the four keys with its value
  exact ofFields_eq rfl path.leaf.ofHex?_toHex rfl path.root.ofHex?_toHex
    (by rw [List.map_map]; rfl) (forall₂_ofHex?_toHex path.nodes) rfl

/-- Texts of 64 hexadecimal digits of either case spell the digests whose texts are their
lowercase forms. -/
theorem digests_of_isHexDigit (texts : List String)
    (hex : ∀ text ∈ texts, text.length = 64 ∧ ∀ c ∈ text.toList, c.isHexDigit) :
    ∃ digests, List.Forall₂ (fun text digest => Digest.ofHex? text = .ok digest) texts digests ∧
      digests.map Digest.toHex = texts.map String.toLower := by
  induction texts with
  | nil => exact ⟨[], .nil, rfl⟩
  | cons text rest ih =>
    simp only [List.mem_cons, forall_eq_or_imp] at hex
    obtain ⟨digest, spelled, lower⟩ := Digest.ofHex?_of_isHexDigit hex.1.1 hex.1.2
    obtain ⟨digests, restSpelled, restLower⟩ := ih hex.2
    exact ⟨digest :: digests, .cons spelled restSpelled, by simp [lower, restLower]⟩

/-- An object whose `leaf_hash` and `root_hash` are 64 hexadecimal digits of either case, whose
`nodes` is an array of such strings and whose `leaf_index` is a natural reads as the path of the
digests they spell. Written back, that path is the object of these four fields alone, its digits
lowercased. -/
theorem ofJson_of_hex {fields : List (String × Value)} {leafText rootText : String}
    {nodeTexts : List String} {index : UInt64}
    (leafHex : leafText.length = 64 ∧ ∀ c ∈ leafText.toList, c.isHexDigit)
    (rootHex : rootText.length = 64 ∧ ∀ c ∈ rootText.toList, c.isHexDigit)
    (nodesHex : ∀ text ∈ nodeTexts, text.length = 64 ∧ ∀ c ∈ text.toList, c.isHexDigit)
    (leafField : Value.field? fields "leaf_hash" = some (.string leafText))
    (rootField : Value.field? fields "root_hash" = some (.string rootText))
    (nodesField : Value.field? fields "nodes" = some (.array (nodeTexts.map .string)))
    (indexField : Value.field? fields "leaf_index" = some (.number (.natural index))) :
    ∃ path, ofJson (.object fields) = .ok path ∧ path.leaf.toHex = leafText.toLower ∧
      path.root.toHex = rootText.toLower ∧
      path.nodes.map Digest.toHex = nodeTexts.map String.toLower ∧
      path.index = index ∧
      path.toJson = .object [("leaf_hash", .string leafText.toLower),
        ("root_hash", .string rootText.toLower),
        ("nodes", .array (nodeTexts.map fun text => .string text.toLower)),
        ("leaf_index", .number (.natural index))] := by
  obtain ⟨leaf, leafSpelled, leafLower⟩ := Digest.ofHex?_of_isHexDigit leafHex.1 leafHex.2
  obtain ⟨root, rootSpelled, rootLower⟩ := Digest.ofHex?_of_isHexDigit rootHex.1 rootHex.2
  obtain ⟨nodes, nodesSpelled, nodesLower⟩ := digests_of_isHexDigit nodeTexts nodesHex
  refine ⟨⟨leaf, root, nodes, index⟩, ofFields_eq leafField leafSpelled rootField rootSpelled
    nodesField nodesSpelled indexField, leafLower, rootLower, nodesLower, rfl, ?_⟩
  have written : nodes.map (fun node => Value.string node.toHex) =
      nodeTexts.map fun text => .string text.toLower :=
    calc nodes.map (fun node => Value.string node.toHex)
        = (nodes.map Digest.toHex).map .string := by simp
      _ = (nodeTexts.map String.toLower).map .string := by rw [nodesLower]
      _ = nodeTexts.map fun text => .string text.toLower := by simp
  simp only [toJson, leafLower, rootLower, written]

/-- Sixty-four copies of one hexadecimal digit are the text of a digest. -/
theorem replicate_isHexDigit {digit : Char} (hex : digit.isHexDigit) :
    (String.ofList (List.replicate 64 digit)).length = 64 ∧
      ∀ c ∈ (String.ofList (List.replicate 64 digit)).toList, c.isHexDigit := by
  refine ⟨by simp only [String.length_ofList, List.length_replicate], ?_⟩
  simp only [String.toList_ofList, List.mem_replicate]
  rintro c ⟨-, rfl⟩
  exact hex

end Path

/-! ## The round trip -/

/-- The JSON form of a path. Every digest is written as 64 lowercase hexadecimal digits; the
compact text of a path is its four fields in the written order, and both the text and the object
read back as the path. Conversely an object whose `leaf_hash` and `root_hash` are 64 hexadecimal
digits of either case, whose `nodes` is an array of such strings and whose `leaf_index` is a
natural below `2 ^ 64` reads as the path of the digests they spell, and writing that path gives
the object of these four fields, the digits lowercased. -/
theorem path_json_round_trip :
    (∀ digest : Digest, digest.toHex.length = 64 ∧
      ∀ c ∈ digest.toHex.toList, c.isHexDigit ∧ c.toLower = c) ∧
    (∀ path : Path,
      path.toJsonText = "\x7b\"leaf_hash\":\"" ++ path.leaf.toHex ++ "\",\"root_hash\":\"" ++
        path.root.toHex ++ "\",\"nodes\":[" ++
        ",".intercalate (path.nodes.map fun node => "\"" ++ node.toHex ++ "\"") ++
        "],\"leaf_index\":" ++ toString path.index.toNat ++ "\x7d" ∧
      (∃ value, Value.read path.toJsonText.toUTF8 = .ok value ∧ Path.ofJson value = .ok path) ∧
      Path.ofJson path.toJson = .ok path) ∧
    (∀ (fields : List (String × Value)) (leafText rootText : String) (nodeTexts : List String)
      (index : UInt64),
      leafText.length = 64 → (∀ c ∈ leafText.toList, c.isHexDigit) →
      rootText.length = 64 → (∀ c ∈ rootText.toList, c.isHexDigit) →
      (∀ text ∈ nodeTexts, text.length = 64 ∧ ∀ c ∈ text.toList, c.isHexDigit) →
      Value.field? fields "leaf_hash" = some (.string leafText) →
      Value.field? fields "root_hash" = some (.string rootText) →
      Value.field? fields "nodes" = some (.array (nodeTexts.map .string)) →
      Value.field? fields "leaf_index" = some (.number (.natural index)) →
      ∃ path, Path.ofJson (.object fields) = .ok path ∧ path.leaf.toHex = leafText.toLower ∧
        path.root.toHex = rootText.toLower ∧
        path.nodes.map Digest.toHex = nodeTexts.map String.toLower ∧ path.index = index ∧
        path.toJson = .object [("leaf_hash", .string leafText.toLower),
          ("root_hash", .string rootText.toLower),
          ("nodes", .array (nodeTexts.map fun text => .string text.toLower)),
          ("leaf_index", .number (.natural index))]) := by
  refine ⟨fun digest => ⟨digest.length_toHex, fun c mem => ?_⟩,
    fun path => ⟨path.toJsonText_shape, path.ofJson_read_toJsonText, path.ofJson_toJson⟩,
    fun fields leafText rootText nodeTexts index leafLength leafDigits rootLength rootDigits
      nodesHex leafField rootField nodesField indexField =>
      Path.ofJson_of_hex ⟨leafLength, leafDigits⟩ ⟨rootLength, rootDigits⟩ nodesHex leafField
        rootField nodesField indexField⟩
  obtain ⟨digit, lower, -⟩ := digest.toHex_digits c mem
  exact ⟨digit, lower⟩

/-- Uppercase digits read as the digests of their lowercase forms, which the path writes. -/
theorem path_json_round_trip_uppercase :
    ∃ path, Path.ofJson (.object [("leaf_hash", .string (String.ofList (List.replicate 64 'A'))),
        ("leaf_index", .number (.natural 7)),
        ("nodes", .array ([String.ofList (List.replicate 64 'A')].map .string)),
        ("root_hash", .string (String.ofList (List.replicate 64 'A')))]) = .ok path ∧
      path.leaf.toHex = (String.ofList (List.replicate 64 'A')).toLower ∧
      path.root.toHex = (String.ofList (List.replicate 64 'A')).toLower ∧
      path.nodes.map Digest.toHex = [String.ofList (List.replicate 64 'A')].map String.toLower ∧
      path.index = 7 ∧
      path.toJson = .object [("leaf_hash", .string (String.ofList (List.replicate 64 'A')).toLower),
        ("root_hash", .string (String.ofList (List.replicate 64 'A')).toLower),
        ("nodes", .array ([String.ofList (List.replicate 64 'A')].map fun text =>
          .string text.toLower)),
        ("leaf_index", .number (.natural 7))] := by
  obtain ⟨length, digits⟩ := Path.replicate_isHexDigit (show 'A'.isHexDigit by decide)
  exact path_json_round_trip.2.2 _ _ _ [String.ofList (List.replicate 64 'A')] 7 length digits
    length digits (by simp only [List.mem_singleton, forall_eq]; exact ⟨length, digits⟩) rfl rfl rfl
    rfl

/-- A key besides the four is read past and not written back: this object with an `extra` key
reads as a path whose object has no `extra` field. -/
theorem path_json_extra_key_dropped :
    ∃ path, Path.ofJson (.object [("extra", .number (.natural 1)),
        ("leaf_hash", .string (String.ofList (List.replicate 64 '0'))),
        ("leaf_index", .number (.natural 0)), ("nodes", .array []),
        ("root_hash", .string (String.ofList (List.replicate 64 '0')))]) = .ok path ∧
      ∃ written, path.toJson = .object written ∧ Value.field? written "extra" = none := by
  obtain ⟨length, digits⟩ := Path.replicate_isHexDigit (show '0'.isHexDigit by decide)
  refine Exists.imp (fun path found => ⟨found.1, _, found.2.2.2.2.2, rfl⟩)
    (@Path.ofJson_of_hex _ _ _ [] 0 ⟨length, digits⟩ ⟨length, digits⟩ (by simp) rfl rfl rfl rfl)

end StripedMerkle
