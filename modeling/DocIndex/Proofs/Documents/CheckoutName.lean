import Mathlib.Data.List.TakeWhile
import DocIndex.Documents.Checkout
import DocIndex.Proofs.Files.Joining
import DocIndex.Proofs.Text.Utf8

/-!
# Names of checkouts

The name of a checkout is never empty and has no slash in it. It names an entry of the folder of the
checkouts, unless the last part of the address is `.` or `..`, be it with `.git` behind it: then it
names that folder itself or the folder around it.
-/

namespace DocIndex.Documents

open DocIndex.Files DocIndex.Text

/-- A number of suffixes `.git`. -/
def suffixes (count : Nat) : List Char := (List.replicate count ['.', 'g', 'i', 't']).flatten

/--
The last part of an address is `.` or `..`, with any number of suffixes `.git` and slashes behind.
-/
def EndsInDots (url : String) : Prop :=
  ∃ opening dots count slashes,
    (∀ c ∈ opening.getLast?, c = '/' ∨ c = ':') ∧ (dots = ['.'] ∨ dots = ['.', '.']) ∧
      url.toList = opening ++ (dots ++ (suffixes count ++ List.replicate slashes '/'))

theorem reverse_suffixes (count : Nat) :
    (suffixes count).reverse = (List.replicate count ['t', 'i', 'g', '.']).flatten := by
  rw [suffixes, List.reverse_flatten, List.map_replicate, List.reverse_replicate]
  rfl

theorem exists_dropSuffixes (text : List Char) :
    ∃ count, text = (suffixes count).reverse ++ dropSuffixes text := by
  fun_induction dropSuffixes text with
  | case1 later ih =>
      rcases ih with ⟨count, whole⟩
      refine ⟨count + 1, ?_⟩
      rw [reverse_suffixes] at whole ⊢
      rw [List.replicate_succ, List.flatten_cons, List.append_assoc, ← whole]
      rfl
  | case2 text => exact ⟨0, rfl⟩

theorem dropSuffixes_append (count : Nat) (text : List Char) :
    dropSuffixes ((suffixes count).reverse ++ text) = dropSuffixes text := by
  rw [reverse_suffixes]
  induction count with
  | zero => rfl
  | succ count ih =>
      rw [List.replicate_succ, List.flatten_cons, List.append_assoc]
      exact ih

/-- The last part of an address, from its end. -/
def lastPart (url : String) : List Char :=
  (url.toList.reverse.dropWhile (· == '/')).takeWhile fun c => c != '/' && c != ':'

theorem checkoutName_eq (url : String) :
    checkoutName url = match (dropSuffixes (lastPart url)).reverse with
      | [] => "repo"
      | name => String.ofList name := rfl

theorem toList_checkoutName_ne_nil (url : String) : (checkoutName url).toList ≠ [] := by
  rw [checkoutName_eq]
  split
  · decide
  · rename_i empty
    rw [String.toList_ofList]
    exact empty

theorem slash_not_mem_checkoutName (url : String) : '/' ∉ (checkoutName url).toList := by
  rw [checkoutName_eq]
  split
  · decide
  · rw [String.toList_ofList, List.mem_reverse]
    intro member
    rcases exists_dropSuffixes (lastPart url) with ⟨count, whole⟩
    have inPart : '/' ∈ lastPart url := by
      rw [whole]
      exact List.mem_append_right _ member
    have kept := List.mem_takeWhile_imp inPart
    contradiction

theorem exists_toList_eq (url : String) :
    ∃ opening slashes, (∀ c ∈ opening.getLast?, c = '/' ∨ c = ':') ∧
      url.toList = opening ++ ((lastPart url).reverse ++ List.replicate slashes '/') := by
  let blank := url.toList.reverse.takeWhile (· == '/')
  let rest := url.toList.reverse.dropWhile (· == '/')
  have blank_eq : blank = List.replicate blank.length '/' := by
    apply List.eq_replicate_of_mem
    intro c member
    simpa using List.mem_takeWhile_imp member
  refine ⟨(rest.dropWhile fun c => c != '/' && c != ':').reverse, blank.length, ?_, ?_⟩
  · intro c member
    rw [List.getLast?_reverse, Option.mem_def] at member
    have stops := List.head?_dropWhile_not (fun c => c != '/' && c != ':') rest
    rw [member] at stops
    simpa [or_iff_not_imp_left] using stops
  · calc url.toList = (blank ++ rest).reverse := by
          rw [List.takeWhile_append_dropWhile, List.reverse_reverse]
      _ = rest.reverse ++ List.replicate blank.length '/' := by
          rw [List.reverse_append, blank_eq, List.reverse_replicate, List.length_replicate]
      _ = (lastPart url ++ rest.dropWhile fun c => c != '/' && c != ':').reverse ++
            List.replicate blank.length '/' := by
          rw [lastPart, List.takeWhile_append_dropWhile]
      _ = _ := by rw [List.reverse_append, List.append_assoc]

theorem lastPart_eq_of_dots {url : String} {opening dots : List Char} {count slashes : Nat}
    (stops : ∀ c ∈ opening.getLast?, c = '/' ∨ c = ':') (isDots : dots = ['.'] ∨ dots = ['.', '.'])
    (url_eq : url.toList =
      opening ++ (dots ++ (suffixes count ++ List.replicate slashes '/'))) :
    lastPart url = (suffixes count).reverse ++ dots := by
  have palindrome : dots.reverse = dots := by
    rcases isDots with rfl | rfl
    · rfl
    · rfl
  have solid : ∀ c ∈ (suffixes count).reverse ++ dots, c ≠ '/' ∧ c ≠ ':' := by
    have letters : ∀ c ∈ ['.', 'g', 'i', 't'], c ≠ '/' ∧ c ≠ ':' := by simp
    intro c member
    apply letters
    rcases List.mem_append.mp member with inSuffixes | inDots
    · rw [suffixes, List.mem_reverse, List.mem_flatten] at inSuffixes
      rcases inSuffixes with ⟨suffix, isSuffix, inSuffix⟩
      rwa [List.eq_of_mem_replicate isSuffix] at inSuffix
    · have isDot : c = '.' := by
        rcases isDots with rfl | rfl
        · simpa using inDots
        · simpa using inDots
      rw [isDot]
      exact List.mem_cons_self
  have reversed : url.toList.reverse = List.replicate slashes '/' ++
      (((suffixes count).reverse ++ dots) ++ opening.reverse) := by
    rw [url_eq]
    simp [palindrome]
  have ends : opening.reverse.takeWhile (fun c => c != '/' && c != ':') = [] := by
    rw [← List.head?_reverse] at stops
    rcases back : opening.reverse with _ | ⟨c, rest⟩
    · rfl
    · have separates := stops c (by rw [back]; rfl)
      rw [List.takeWhile_cons_of_neg]
      simpa [or_iff_not_imp_left] using separates
  have begins : (((suffixes count).reverse ++ dots) ++ opening.reverse).dropWhile (· == '/') =
      ((suffixes count).reverse ++ dots) ++ opening.reverse := by
    have some_dots : (suffixes count).reverse ++ dots ≠ [] := by
      rcases isDots with rfl | rfl
      · simp
      · simp
    rcases List.exists_cons_of_ne_nil some_dots with ⟨c, rest, whole⟩
    rw [whole, List.cons_append, List.dropWhile_cons_of_neg]
    simpa using (solid c (whole ▸ List.mem_cons_self)).1
  rw [lastPart, reversed, List.dropWhile_append_of_pos (by simp), begins,
    List.takeWhile_append_of_pos (by simpa using solid), ends, List.append_nil]

/-- The name of a checkout is `.` or `..` for the addresses that end in dots alone. -/
theorem toList_checkoutName_iff (url : String) :
    ((checkoutName url).toList = ['.'] ∨ (checkoutName url).toList = ['.', '.']) ↔
      EndsInDots url := by
  constructor
  · intro isDots
    have kept : dropSuffixes (lastPart url) = ['.'] ∨ dropSuffixes (lastPart url) = ['.', '.'] := by
      rw [checkoutName_eq] at isDots
      split at isDots
      · exact absurd isDots (by decide)
      · rw [String.toList_ofList] at isDots
        rcases isDots with one | two
        · exact .inl (List.reverse_injective one)
        · exact .inr (List.reverse_injective two)
    rcases exists_dropSuffixes (lastPart url) with ⟨count, part_eq⟩
    rcases exists_toList_eq url with ⟨opening, slashes, stops, url_eq⟩
    refine ⟨opening, (dropSuffixes (lastPart url)).reverse, count, slashes, stops, ?_, ?_⟩
    · rcases kept with one | two
      · exact .inl (by rw [one]; rfl)
      · exact .inr (by rw [two]; rfl)
    · rw [part_eq] at url_eq
      simpa using url_eq
  · rintro ⟨opening, dots, count, slashes, stops, isDots, url_eq⟩
    have part_eq := lastPart_eq_of_dots stops isDots url_eq
    rw [checkoutName_eq, part_eq, dropSuffixes_append]
    rcases isDots with rfl | rfl
    · exact .inl rfl
    · exact .inr rfl

/-- The name under which a checkout is put into the folder of the checkouts. -/
def entryName (url : String) : Name := Utf8.ofString (checkoutName url)

theorem entryName_ne_nil (url : String) : entryName url ≠ [] := by
  intro empty
  exact toList_checkoutName_ne_nil url (Utf8.eq_map_of_encode_eq empty (by simp))

theorem slash_not_mem_entryName (url : String) : slash ∉ entryName url := by
  intro member
  exact slash_not_mem_checkoutName url (Utf8.mem_of_mem_encode member (by decide))

theorem entryName_eq_iff (url : String) :
    (entryName url = selfName ∨ entryName url = parentName) ↔
      ((checkoutName url).toList = ['.'] ∨ (checkoutName url).toList = ['.', '.']) := by
  constructor
  · rintro (one | two)
    · exact .inl (Utf8.eq_map_of_encode_eq one (by simp [selfName, dot]))
    · exact .inr (Utf8.eq_map_of_encode_eq two (by simp [parentName, dot]))
  · rw [entryName, Utf8.ofString]
    rintro (one | two)
    · exact .inl (by rw [one]; decide)
    · exact .inr (by rw [two]; decide)

/-- The name of a checkout names an entry, unless the address ends in dots. -/
theorem isPlain_entryName_iff (url : String) : IsPlain (entryName url) ↔ ¬ EndsInDots url := by
  rw [← toList_checkoutName_iff, ← entryName_eq_iff]
  constructor
  · rintro plain (one | two)
    · exact plain.ne_selfName one
    · exact plain.down two
  · intro apart
    rw [not_or] at apart
    refine ⟨slash_not_mem_entryName url, ?_, apart.2⟩
    rw [isVoid, Bool.or_eq_false_iff, List.isEmpty_eq_false_iff, beq_eq_false_iff_ne]
    exact ⟨entryName_ne_nil url, apart.1⟩

end DocIndex.Documents
