import Synopsis.Index.Document
import Synopsis.Proofs.Json.Scanning
import Synopsis.Proofs.Keyed.Latest

namespace Synopsis.Index

open Json (Token Frame Focus scan run)

def entryTokens (e : Text × Text) : List Token :=
  [.text e.1, .colon, .openObject, .text "filePath", .colon, .text e.1, .comma, .text "summary",
    .colon, .text e.2, .closeObject]

theorem scan_entryText (e : Text × Text) (r : List Rune) :
    scan .between ((entryText e).toList ++ r) = entryTokens e ++ scan .between r := by
  have hfront (x : List Rune) : scan .between (("  " : Text).toList ++ x) = scan .between x := rfl
  have hpath (x : List Rune) : scan .between ((": \x7b\n    \"filePath\": " : Text).toList ++ x) =
      .colon :: .openObject :: .text "filePath" :: .colon :: scan .between x := rfl
  have hsummary (x : List Rune) : scan .between ((",\n    \"summary\": " : Text).toList ++ x) =
      .comma :: .text "summary" :: .colon :: scan .between x := rfl
  have hclose (x : List Rune) :
      scan .between (("\n  \x7d" : Text).toList ++ x) = .closeObject :: scan .between x := rfl
  rw [entryText]
  simp only [Text.toList_append, List.append_assoc]
  rw [hfront, Json.scan_quotedText, hpath, Json.scan_quotedText, hsummary, Json.scan_quotedText,
    hclose]
  rfl

theorem toList_intercalate_entryText (e : Text × Text) (es : List (Text × Text)) :
    (Text.intercalate ",\n" ((e :: es).map entryText)).toList =
      (entryText e).toList ++
        es.flatMap fun e => (",\n" : Text).toList ++ (entryText e).toList := by
  induction es generalizing e with
  | nil => simp
  | cons f fs ih =>
    rw [List.map_cons, List.map_cons, Text.intercalate_cons_cons, ← List.map_cons]
    simp only [Text.toList_append, ih f, List.flatMap_cons, List.append_assoc]

theorem scan_entries (es : List (Text × Text)) (r : List Rune) :
    scan .between ((es.flatMap fun e => (",\n" : Text).toList ++ (entryText e).toList) ++ r) =
      (es.flatMap fun e => .comma :: entryTokens e) ++ scan .between r := by
  induction es with
  | nil => rfl
  | cons e es ih =>
    have hcomma (x : List Rune) :
        scan .between ((",\n" : Text).toList ++ x) = .comma :: scan .between x := rfl
    simp only [List.flatMap_cons, List.append_assoc]
    rw [hcomma, scan_entryText, ih]
    simp

def entryJson (e : Text × Text) : Json :=
  .obj [("filePath", .str e.1), ("summary", .str e.2)]

theorem run_entryTokens (seen : Keyed Json) (first : Bool) (e : Text × Text)
    (r : List Token) : run [] (.key seen first) (entryTokens e ++ r) =
      run [.fields seen e.1] (.whole (entryJson e)) r := rfl

theorem run_entries (seen : Keyed Json) (e : Text × Text) (es : List (Text × Text)) :
    run [.fields seen e.1] (.whole (entryJson e))
        ((es.flatMap fun e => .comma :: entryTokens e) ++ [.closeObject]) =
      .ok ([], .whole (.obj
        ((e :: es).foldl (fun m e => Keyed.set m e.1 (entryJson e)) seen))) := by
  induction es generalizing seen e with
  | nil => rfl
  | cons f fs ih =>
    have hcomma (r : List Token) :
        run [.fields seen e.1] (.whole (entryJson e)) (.comma :: (entryTokens f ++ r)) =
          run [.fields (Keyed.set seen e.1 (entryJson e)) f.1] (.whole (entryJson f)) r := rfl
    rw [List.flatMap_cons, List.append_assoc, List.cons_append, hcomma, ih]
    rfl

theorem nodup_keys_summaries (entries : List Entry) :
    (Keyed.keys (summaries entries)).Nodup := by
  have hnodup := Keyed.nodup_keys_foldl_set (entries.map fun e => (e.path, e.summary))
  rwa [List.foldl_map] at hnodup

theorem read_documentText (entries : List Entry) : Json.read (documentText entries) =
    .ok (.obj ((summaries entries).map fun e => (e.1, entryJson e))) := by
  have hnodup := nodup_keys_summaries entries
  rw [documentText]
  cases hall : summaries entries with
  | nil => rfl
  | cons e es =>
    rw [hall] at hnodup
    have hopen (x : List Rune) :
        scan .between (("\x7b\n" : Text).toList ++ x) = .openObject :: scan .between x := rfl
    have hclose : scan .between ("\n\x7d\n" : Text).toList = [.closeObject] := rfl
    have htokens : scan .between ("\x7b\n" ++ Text.intercalate ",\n" ((e :: es).map entryText) ++
        "\n\x7d\n").toList = .openObject :: (entryTokens e ++
          ((es.flatMap fun e => .comma :: entryTokens e) ++ [.closeObject])) := by
      simp only [Text.toList_append, toList_intercalate_entryText, List.append_assoc]
      rw [hopen, scan_entryText, scan_entries, hclose]
    have hstart (r : List Token) :
        run [] .value (.openObject :: r) = run [] (.key [] true) r := rfl
    have hfields := Keyed.foldl_set_of_nodup (l := []) Prod.fst entryJson (e :: es) hnodup
      (fun b _ => by simp [Keyed.keys])
    simp only [Json.read, htokens, Json.ofTokens, hstart, run_entryTokens, run_entries, hfields,
      List.nil_append]

theorem ofFields_map (l : List (Text × Text)) :
    ofFields (l.map fun e => (e.1, entryJson e)) = .ok (l.map fun e => (e.1, ⟨e.1, e.2⟩)) := by
  induction l with
  | nil => rfl
  | cons e r ih =>
    have hentry : entryOf e.1 (entryJson e) = .ok ⟨e.1, e.2⟩ := by
      simp [entryOf, entryJson, Json.field?, Keyed.get?, Json.str?]
    simp only [List.map_cons, ofFields, hentry, ih]

theorem return_not_mem_documentText (entries : List Entry) :
    ('\r' : Rune) ∉ (documentText entries).toList := by
  have hentry (e : Text × Text) : ('\r' : Rune) ∉ (entryText e).toList := by
    have hpath := Json.return_not_mem_quotedText e.1
    have hsummary := Json.return_not_mem_quotedText e.2
    simp only [entryText, Text.toList_append, List.mem_append, hpath, hsummary, or_false]
    decide
  rw [documentText]
  cases summaries entries with
  | nil => decide
  | cons e es =>
    have hrest : ('\r' : Rune) ∉
        es.flatMap fun e => (",\n" : Text).toList ++ (entryText e).toList := by
      intro h
      obtain ⟨f, -, hf⟩ := List.mem_flatMap.mp h
      rcases List.mem_append.mp hf with hf | hf
      · exact absurd hf (by decide)
      · exact hentry f hf
    simp only [Text.toList_append, toList_intercalate_entryText, List.mem_append, hentry e,
      hrest, or_false]
    decide

end Synopsis.Index
