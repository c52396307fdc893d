import DocIndex.Proofs.Json.Grammar
import DocIndex.Proofs.Json.Value
import DocIndex.Proofs.Positions

/-!
# Positions as JSON

The text of a position is a JSON object, and what is read from it are the source, the path and the
number that it was written from. So positions with the same text are the same.
-/

namespace DocIndex.Metadata

open DocIndex.Json DocIndex.Text

variable {position other : Metadata}

/-- What the text of a position stands for. -/
def value (position : Metadata) : Value :=
  .object [("source".toList, .string position.source.toList),
    ("path".toList, .string position.path.toList),
    ("chunk_index".toList, .number (.natural position.index))]

/-- The members of the text of a position, as they are written. -/
def written (position : Metadata) : List (List Char × List Char) :=
  [(quoted "source".toList, quoted position.source.toList),
    (quoted "path".toList, quoted position.path.toList),
    (quoted "chunk_index".toList, Nat.toDigits 10 position.index)]

theorem eq_of_value_eq (same : other.value = position.value) : other = position := by
  simp only [value, Value.object.injEq, List.cons.injEq, Prod.mk.injEq, Value.string.injEq,
    Value.number.injEq, Number.natural.injEq, String.toList_inj, true_and, and_true] at same
  rcases same with ⟨source_eq, path_eq, index_eq⟩
  rw [Metadata.mk.injEq]
  exact ⟨source_eq, path_eq, index_eq⟩

theorem isMember_member (name : String) {text : List Char} (isValue : IsValue text) :
    IsMember (quoted name.toList, text) (member name text) := by
  have whole := IsMember.around (isString_quoted name.toList) isGap_nil isGap_nil
    (.around isValue isGap_nil isGap_nil)
  simpa [member] using whole

theorem toList_json (position : Metadata) : position.json.toList =
    '{' :: ((member "source" (quoted position.source.toList) ++
      ',' :: (member "path" (quoted position.path.toList) ++
        ',' :: member "chunk_index" (Nat.toDigits 10 position.index))) ++ ['}']) := by
  simp [json]

theorem isObject_json (position : Metadata) : IsObject position.written position.json.toList := by
  have isSource := isMember_member "source" (.string (isString_quoted position.source.toList))
  have isPath := isMember_member "path" (.string (isString_quoted position.path.toList))
  have isIndex := isMember_member "chunk_index" (.number (isNumber_toDigits position.index))
  exact ⟨[], _, [], toList_json position, isGap_nil,
    .more isSource (.more isPath (.last isIndex)), isGap_nil⟩

theorem encode_member_append (name : String) (text : List Char) (rest : List UInt8) :
    Utf8.encode (member name text) ++ rest =
      Utf8.encode (quoted name.toList) ++ ':'.toUInt8 :: (Utf8.encode text ++ rest) := by
  rw [member, Utf8.encode_append, Utf8.encode_cons_of_ascii (by decide), List.append_assoc]
  rfl

theorem ofString_json (position : Metadata) : Utf8.ofString position.json =
    '{'.toUInt8 :: (Utf8.encode (member "source" (quoted position.source.toList)) ++
      ','.toUInt8 :: (Utf8.encode (member "path" (quoted position.path.toList)) ++
        ','.toUInt8 :: (Utf8.encode (member "chunk_index" (Nat.toDigits 10 position.index)) ++
          ['}'.toUInt8]))) := by
  rw [Utf8.ofString, toList_json]
  simp only [Utf8.encode_append, List.append_assoc,
    Utf8.encode_cons_of_ascii (show '{'.toNat < 128 by decide),
    Utf8.encode_cons_of_ascii (show ','.toNat < 128 by decide),
    Utf8.encode_cons_of_ascii (show '}'.toNat < 128 by decide), List.cons_append]
  rfl

/-- The three members are read one after the other. -/
theorem membersWithin_json (fits : position.index ≤ largest) (fuel depth : Nat) :
    ∃ later members, Utf8.ofString position.json = '{'.toUInt8 :: later ∧
      position.value = .object members ∧
      membersWithin (fuel + 4) depth true later = .ok (members, []) := by
  refine ⟨_, _, ofString_json position, rfl, ?_⟩
  have comma : ∀ later, EndsNumber (','.toUInt8 :: later) := fun _ => ⟨rfl, by decide, rfl⟩
  have brace : EndsNumber ['}'.toUInt8] := ⟨rfl, by decide, rfl⟩
  simp only [encode_member_append]
  have index := membersWithin_member false "chunk_index".toList (isReadAs_toDigits fits) brace
    (@membersWithin_end fuel depth false [])
  have path := membersWithin_member false "path".toList (isReadAs_quoted position.path.toList)
    (comma _) index
  exact membersWithin_member true "source".toList (isReadAs_quoted position.source.toList)
    (comma _) path

theorem read_json (fits : position.index ≤ largest) :
    Value.read (Utf8.ofString position.json) = .ok position.value := by
  -- Each member takes one unit of fuel, and so do the closing brace and the object itself.
  have long : 3 ≤ (Utf8.ofString position.json).length := by
    rw [ofString_json]
    simp only [List.length_cons, List.length_append]
    omega
  rcases Nat.exists_eq_add_of_le long with ⟨more, length_eq⟩
  rcases membersWithin_json fits (2 * more + 3) (depthLimit - 1) with
    ⟨later, members, begins, stands, read⟩
  have fuel_eq : 2 * ('{'.toUInt8 :: later).length + 2 = 2 * more + 3 + 4 + 1 := by
    rw [← begins, length_eq]
    omega
  rw [Value.read, begins, fuel_eq, valueWithin_object (by decide) read, stands]
  rfl

/--
The text of a position with a number of 64 bits is an object, what is read from it is the position,
and no other position has this text.
-/
theorem json_reads_back (fits : position.index ≤ largest) :
    IsObject position.written position.json.toList ∧
      Value.read (Utf8.ofString position.json) = .ok position.value ∧
      ∀ other : Metadata, other.index ≤ largest → other.json = position.json →
        other = position := by
  refine ⟨isObject_json position, read_json fits, fun other fitsToo same => ?_⟩
  have read := read_json fitsToo
  rw [same, read_json fits, Except.ok.injEq] at read
  exact eq_of_value_eq read.symm

/-- The source has a quote, a backslash, a control character and one beyond 16 bits. -/
theorem json_reads_back_of_marks :
    (Metadata.json ⟨"\"\\\x01😀", "a.md", largest⟩).toList =
        ("\x7b\"source\":\"\\\"\\\\\\u0001😀\",\"path\":\"a.md\"," ++
          "\"chunk_index\":18446744073709551615\x7d").toList ∧
      Value.read (Utf8.ofString (Metadata.json ⟨"\"\\\x01😀", "a.md", largest⟩)) =
        .ok (.object [("source".toList, .string ['"', '\\', '\x01', '😀']),
          ("path".toList, .string "a.md".toList),
          ("chunk_index".toList, .number (.natural 18446744073709551615))]) := by
  refine ⟨by decide, ?_⟩
  exact (@json_reads_back ⟨"\"\\\x01😀", "a.md", largest⟩ (Nat.le_refl largest)).2.1

end DocIndex.Metadata
