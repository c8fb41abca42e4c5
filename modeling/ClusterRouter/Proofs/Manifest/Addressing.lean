import ClusterRouter.Manifest.Service
import ClusterRouter.Proofs.Manifest.Entries

/-!
# Addressed fields

Path texts compose. A text that is read goes on behind a separator with every other text that is
read, and behind every text that is read there may be an index. So the text that is put together of
the path of a list, a position and a name leads to that field of that item: reading there reads the
field, and an edit there changes the field and nothing else.
-/

namespace ClusterRouter

section

variable {separator : Separator} {text name : String} {path : Path} {document : Document}
  {items : List Value} {place : Nat}

/-- A text leads to a field of one item of the list at a path: the field is read there, and a put or
a removal puts the item that it makes in the place of the old one. -/
structure FieldAt (document : Document) (text : String) (base : Path) (items : List Value)
    (place : Nat) (item : Value) (name : String) : Prop where
  read : document.lookup text = .ok (item.field? name)
  put (value : Value) : (Document.put text value).run document =
    Document.concluded document (.ok ((Value.setField? name value item).map fun new ↦
      document.root.modify (fun _ ↦ .list (items.set place new)) base))
  remove : (Document.remove text).run document =
    Document.concluded document (.ok ((item.removeStep? (.key name)).map fun new ↦
      document.root.modify (fun _ ↦ .list (items.set place new)) base))

theorem fieldAt_fieldPath (hpath : document.parsePath text = .ok (fieldPath path place name))
    (hbase : document.root.lookup path = some (.list items)) (hlength : Indexable items)
    (hlt : place < items.length) : FieldAt document text path items place items[place] name where
  read := by
    rw [Document.lookup_of_parsePath hpath, fieldPath, lookup_behind_item hbase hlt,
      if_pos hlength, Value.lookup_key]
  put value := by
    have hreached : (items.length : Int) ≤ Int64.maxValue.toInt := hlength
    rw [Document.put_run, Document.changeAt_of_parsePath hpath, putChange_fieldPath hbase hlt,
      if_pos hreached]
  remove := by
    have hconcat : fieldPath path place name =
        (path ++ [.index (Path.saturate place)]) ++ [.key name] := by simp [fieldPath]
    rw [Document.remove_run, Document.changeAt_of_parsePath hpath, hconcat,
      Document.removeChange_concat, modify?_behind_item hbase hlt, if_pos hlength, Value.modify?_nil]

/-- What a path text that is read becomes a part of. -/
structure Composes (separator : Separator) (text : String) (path : Path) : Prop where
  /-- Behind a separator every other text goes on exactly if it is read by itself. -/
  joined : text ≠ "" → text.toList.getLast? ≠ some separator.char → ∀ (other : String) (steps : Path),
    Path.parse (text ++ separator.char.toString ++ other) separator = .ok steps ↔
      ∃ rest, Path.parse other separator = .ok rest ∧ steps = path ++ rest
  /-- An index goes on behind every text, be it empty or end with a separator. -/
  indexed (i : Int64) : Path.parse (Path.indexed text i) separator = .ok (path ++ [.index i])
  /-- The path of a list, a position and a name make the text of a field. -/
  addressed (document : Document) (items : List Value) (place : Nat) (hlt : place < items.length)
    (name : String) : document.separator = separator →
      document.root.lookup path = some (.list items) → Indexable items → name ≠ "" →
      (∀ c ∈ name.toList, Path.IsKeyCharacter separator c) →
      FieldAt document (itemPath text place ++ separator.char.toString ++ name) path items place
        items[place] name

/-- Path texts compose, and one that is put together addresses exactly what its parts say. -/
theorem texts_compose (h : Path.parse text separator = .ok path) :
    Composes separator text path where
  joined hne hlast _ _ := Path.parse_joined_iff h hne hlast
  indexed := Path.parse_indexed h
  addressed document items place hlt name hseparator hbase hlength hne hname := by
    subst hseparator
    exact fieldAt_fieldPath (Document.parsePath_of_parse (parse_itemPath_name h place hne hname))
      hbase hlength hlt

end

/-- A service with two ports, of which the second one has a protocol. -/
def twoPorts : Document :=
  { root := .map [("spec", .map [("ports", .list
      [.map [("port", .int 80)], .map [("port", .int 53), ("protocol", .string "UDP")]])])] }

/-- The protocol of the second port, an index at the end of its range, and a text that is not read
behind another one either. -/
theorem texts_compose_of_ports :
    Path.parse Service.portsPath .dot = .ok [.key "spec", .key "ports"] ∧
      (∀ steps, Path.parse (Service.portsPath ++ Separator.dot.char.toString ++ "a..b") .dot ≠
        .ok steps) ∧
      Path.parse (Path.indexed Service.portsPath Int64.minValue) .dot =
        .ok [.key "spec", .key "ports", .index Int64.minValue] ∧
      twoPorts.lookup (itemPath Service.portsPath 1 ++ Separator.dot.char.toString ++ "protocol") =
        .ok (some (.string "UDP")) := by
  have hparse : Path.parse Service.portsPath .dot = .ok [.key "spec", .key "ports"] := by
    decide +kernel
  have hcomposes := texts_compose hparse
  refine ⟨hparse, fun steps hjoined ↦ ?_, hcomposes.indexed Int64.minValue, ?_⟩
  · obtain ⟨rest, hrest, -⟩ := (hcomposes.joined (by decide) (by decide) "a..b" steps).mp hjoined
    have hrefused : ∀ rest, Path.parse "a..b" .dot ≠ .ok rest := by
      have herror : Path.parse "a..b" .dot = .error (.invalid "a..b" .dot) := by decide +kernel
      simp [herror]
    exact hrefused rest hrest
  · have hkeys : "protocol".toList.all (Path.isKeyChar .dot) = true := by decide +kernel
    have hname : ∀ c ∈ "protocol".toList, Path.IsKeyCharacter .dot c := fun c hc ↦
      Path.isKeyChar_iff.mp (List.all_eq_true.mp hkeys c hc)
    exact (hcomposes.addressed twoPorts _ 1 (by decide) "protocol" rfl rfl (by decide +kernel)
      (by decide) hname).read

end ClusterRouter
