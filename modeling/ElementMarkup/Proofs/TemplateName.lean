import ElementMarkup.Path
import ElementMarkup.Proofs.Text
import ElementMarkup.TemplateName
import Mathlib.Data.List.TakeWhile
import Mathlib.Tactic.NthRewrite

/-!
# Names of templates are normal

The name that a path stands for is normal whatever the path is: after the slashes at its start it
has no empty parts and no single dots, two dots stand at its start only, and resolving its dots
again changes nothing. `Resolved` is the invariant of the stack of parts, `pushPart` keeps it, and a
normal list of parts is pushed as it is. The last part of a path with an extension stays, so that a
name is never empty. Main statements: `is_normal_resolve_chars` and `head?_resolve_chars`.
-/

namespace ElementMarkup

/-! ## Cutting at a separator -/

namespace Text

variable {separator : Char}

/-- A text is cut at a separator. -/
theorem split_on_append_cons (cs rest : List Char) :
    splitOn separator (cs ++ separator :: rest) =
      splitOn separator cs ++ splitOn separator rest := by
  induction cs with
  | nil => simp [splitOn]
  | cons c cs ih =>
      rw [List.cons_append, splitOn, splitOn, ih]
      split
      · rfl
      · cases hparts : splitOn separator cs with
        | nil => exact absurd hparts (by rw [split_on_eq]; exact List.splitOn_ne_nil _ _)
        | cons first more => rfl

/-- A text without separators is one part. -/
theorem split_on_of_not_mem {cs : List Char} (h : separator ∉ cs) :
    splitOn separator cs = [cs] := by
  have hparts := split_on_join_with (List.cons_ne_nil cs []) (by simpa using h)
  simpa [joinWith] using hparts

/-- Separators at the start of a text cut off as many empty parts. -/
theorem split_on_replicate_append (n : Nat) (cs : List Char) :
    splitOn separator (List.replicate n separator ++ cs) =
      List.replicate n [] ++ splitOn separator cs := by
  induction n with
  | zero => rfl
  | succ n ih =>
      rw [List.replicate_succ, List.cons_append, splitOn, if_pos rfl, ih, List.replicate_succ,
        List.cons_append]

end Text

namespace TemplateName

open Text (splitOn joinWith)

/-! ## The last part of a path -/

/-- What follows the last slash contains no slash. -/
theorem not_mem_base_name (path : List Char) : '/' ∉ baseName path := by
  intro h
  have hkept := List.mem_takeWhile_imp (List.mem_reverse.mp h)
  simp at hkept

/-- A path is what goes up to its last slash and what follows. -/
theorem up_to_last_slash_append_base_name (path : List Char) :
    upToLastSlash path ++ baseName path = path := by
  rw [upToLastSlash, baseName, ← List.reverse_append, List.takeWhile_append_dropWhile,
    List.reverse_reverse]

/-- What goes up to the last slash ends with it, if there is one. -/
theorem up_to_last_slash_eq (path : List Char) :
    upToLastSlash path = [] ∨ ∃ before, upToLastSlash path = before ++ ['/'] := by
  unfold upToLastSlash
  cases hdrop : path.reverse.dropWhile (· != '/') with
  | nil => exact .inl rfl
  | cons c cs =>
      have hc : c = '/' := by
        have hhead := List.head?_dropWhile_not (· != '/') path.reverse
        simpa [hdrop] using hhead
      exact .inr ⟨cs.reverse, by rw [hc, List.reverse_cons]⟩

/-- The last part of a path is what follows its last slash. -/
theorem split_on_eq_concat_base_name (path : List Char) :
    ∃ before, splitOn '/' path = before ++ [baseName path] := by
  have hbase := Text.split_on_of_not_mem (not_mem_base_name path)
  have hpath := up_to_last_slash_append_base_name path
  rcases up_to_last_slash_eq path with hnone | ⟨before, hsome⟩
  · refine ⟨[], ?_⟩
    rw [hnone, List.nil_append] at hpath
    rw [List.nil_append, ← hbase, hpath]
  · refine ⟨splitOn '/' before, ?_⟩
    rw [hsome, List.append_assoc, List.singleton_append] at hpath
    rw [← hbase, ← Text.split_on_append_cons, hpath]

/-- What stands in front of a slash does not change the last part. -/
theorem base_name_append {before : List Char} (h : before = [] ∨ before.getLast? = some '/')
    (path : List Char) : baseName (before ++ path) = baseName path := by
  have hstop : before.reverse.takeWhile (· != '/') = [] := by
    rcases h with rfl | hlast
    · rfl
    · rw [← List.head?_reverse] at hlast
      obtain ⟨rest, hrest⟩ := List.head?_eq_some_iff.mp hlast
      rw [hrest, List.takeWhile_cons_of_neg (by simp)]
  unfold baseName
  rw [List.reverse_append, List.takeWhile_append, hstop, List.append_nil]
  split
  · rename_i hall
    rw [(List.takeWhile_prefix _).eq_of_length hall]
  · rfl

/-- What contains no slash goes on with the last part. -/
theorem base_name_append_of_not_mem {more : List Char} (h : '/' ∉ more) (path : List Char) :
    baseName (path ++ more) = baseName path ++ more := by
  have hall : ∀ c ∈ more.reverse, (c != '/') = true := by
    intro c hc
    rw [bne_iff_ne]
    rintro rfl
    exact h (List.mem_reverse.mp hc)
  unfold baseName
  rw [List.reverse_append, List.takeWhile_append_of_pos hall, List.reverse_append,
    List.reverse_reverse]

/-- A part that is neither empty nor made of one or two dots. -/
def IsPlain (part : List Char) : Prop :=
  part ≠ [] ∧ part ≠ ['.'] ∧ part ≠ ['.', '.']

/-- The last part of a path that has an extension, or was given one, is plain. -/
theorem is_plain_base_name (path : List Char) :
    IsPlain (baseName
      (if (extension path).isEmpty then path ++ defaultExtension else path)) := by
  split
  · rw [base_name_append_of_not_mem (by decide)]
    refine ⟨?_, ?_, ?_⟩ <;> intro h <;> have hlength := congrArg List.length h <;>
      simp [defaultExtension] at hlength
  · rename_i hextension
    have hother : ∃ c ∈ baseName path, c ≠ '.' := by
      unfold extension at hextension
      dsimp only at hextension
      split at hextension
      · rename_i hdot
        obtain ⟨c, hc, hne⟩ := List.any_eq_true.mp (Bool.and_eq_true_iff.mp hdot).2
        exact ⟨c, List.mem_of_mem_take hc, bne_iff_ne.mp hne⟩
      · exact absurd rfl hextension
    obtain ⟨c, hc, hne⟩ := hother
    refine ⟨?_, ?_, ?_⟩ <;> intro h <;> rw [h] at hc <;> simp at hc <;> exact hne hc

/-! ## The stack of parts -/

/-- Parts whose dots are resolved: first only double dots, and none if the path starts at the root,
then only plain parts. -/
def Resolved (rooted : Bool) (parts : List (List Char)) : Prop :=
  ∃ ups rest, parts = List.replicate ups ['.', '.'] ++ rest ∧
    (∀ part ∈ rest, IsPlain part ∧ '/' ∉ part) ∧ (rooted = true → ups = 0)

/-- One more part leaves the dots resolved. -/
theorem resolved_push_part {rooted : Bool} {stack : List (List Char)}
    (h : Resolved rooted stack.reverse) {part : List Char} (hpart : '/' ∉ part) :
    Resolved rooted (pushPart rooted stack part).reverse := by
  obtain ⟨ups, rest, hstack, hrest, hups⟩ := h
  unfold pushPart
  split
  · exact ⟨ups, rest, hstack, hrest, hups⟩
  · rename_i hkept
    split
    · rename_i hdots
      refine ⟨ups, rest ++ [part], ?_, ?_, hups⟩
      · rw [List.reverse_cons, hstack, List.append_assoc]
      · intro other hother
        rcases List.mem_append.mp hother with hother | hother
        · exact hrest other hother
        · obtain rfl := List.mem_singleton.mp hother
          exact ⟨⟨fun h => hkept (.inl h), fun h => hkept (.inr h), hdots⟩, hpart⟩
    · rename_i hdots
      obtain rfl : part = ['.', '.'] := not_not.mp hdots
      cases stack with
      | nil =>
          cases rooted with
          | true => exact ⟨0, [], rfl, List.forall_mem_nil _, fun _ => rfl⟩
          | false => exact ⟨1, [], rfl, List.forall_mem_nil _, by simp⟩
      | cons last before =>
          rw [List.reverse_cons] at hstack
          dsimp only
          rcases List.eq_nil_or_concat rest with rfl | ⟨more, other, rfl⟩
          · -- Nothing but double dots is there, and one more goes on top.
            rw [List.append_nil] at hstack
            have hlast : last = ['.', '.'] :=
              List.eq_of_mem_replicate (hstack ▸ List.mem_append_right _ List.mem_cons_self)
            have hpos : ups ≠ 0 := by
              rintro rfl
              simp at hstack
            refine ⟨ups + 1, [], ?_, List.forall_mem_nil _, fun h => absurd (hups h) hpos⟩
            rw [if_pos hlast, List.reverse_cons, List.reverse_cons, hstack, List.append_nil,
              List.replicate_succ']
          · -- The last part is plain, and the double dots remove it.
            rw [List.concat_eq_append, ← List.append_assoc] at hstack
            obtain ⟨hbefore, hlast⟩ := List.append_inj' hstack rfl
            obtain rfl := List.singleton_inj.mp hlast
            have hplain := (hrest last (by simp)).1.2.2
            refine ⟨ups, more, ?_, fun part hmem => hrest part (by simp [hmem]), hups⟩
            rw [if_neg hplain, hbefore]

/-- Going through all parts of a path leaves the dots resolved. -/
theorem resolved_foldl {rooted : Bool} {parts : List (List Char)}
    (hparts : ∀ part ∈ parts, '/' ∉ part) {stack : List (List Char)}
    (h : Resolved rooted stack.reverse) :
    Resolved rooted (parts.foldl (pushPart rooted) stack).reverse := by
  induction parts generalizing stack with
  | nil => exact h
  | cons part parts ih =>
      obtain ⟨hpart, hparts⟩ := List.forall_mem_cons.mp hparts
      exact ih hparts (resolved_push_part h hpart)

/-- A part that is plain goes on the stack. -/
theorem push_part_of_is_plain {part : List Char} (h : IsPlain part) (rooted : Bool)
    (stack : List (List Char)) : pushPart rooted stack part = part :: stack := by
  unfold pushPart
  rw [if_neg (not_or.mpr ⟨h.1, h.2.1⟩), if_pos h.2.2]

/-- Plain parts go on the stack one after the other. -/
theorem foldl_push_part_of_is_plain {parts : List (List Char)} (h : ∀ part ∈ parts, IsPlain part)
    (rooted : Bool) (stack : List (List Char)) :
    parts.foldl (pushPart rooted) stack = parts.reverse ++ stack := by
  induction parts generalizing stack with
  | nil => rfl
  | cons part parts ih =>
      obtain ⟨hpart, hparts⟩ := List.forall_mem_cons.mp h
      rw [List.foldl_cons, push_part_of_is_plain hpart, ih hparts, List.reverse_cons,
        List.append_assoc, List.singleton_append]

/-- Double dots pile up where there is no root. -/
theorem foldl_push_part_replicate (ups : Nat) :
    (List.replicate ups ['.', '.']).foldl (pushPart false) [] = List.replicate ups ['.', '.'] := by
  induction ups with
  | zero => rfl
  | succ ups ih =>
      rw [List.replicate_succ', List.foldl_append, ih, List.foldl_cons, List.foldl_nil,
        ← List.replicate_succ', List.replicate_succ]
      cases ups <;> rfl

/-- Parts whose dots are resolved go on the stack as they are. -/
theorem Resolved.foldl_eq {rooted : Bool} {parts : List (List Char)} (h : Resolved rooted parts) :
    parts.foldl (pushPart rooted) [] = parts.reverse := by
  obtain ⟨ups, rest, rfl, hrest, hups⟩ := h
  have hplain := foldl_push_part_of_is_plain fun part hpart => (hrest part hpart).1
  rw [List.foldl_append, hplain, List.reverse_append, List.reverse_replicate]
  cases rooted with
  | true => rw [hups rfl]; rfl
  | false => rw [foldl_push_part_replicate]

/-- No resolved part is empty, a single dot, or has a slash in it. -/
theorem Resolved.of_mem {rooted : Bool} {parts : List (List Char)} (h : Resolved rooted parts)
    {part : List Char} (hpart : part ∈ parts) : part ≠ [] ∧ part ≠ ['.'] ∧ '/' ∉ part := by
  obtain ⟨ups, rest, rfl, hrest, -⟩ := h
  rcases List.mem_append.mp hpart with hup | hpart
  · rw [List.eq_of_mem_replicate hup]
    decide
  · obtain ⟨⟨hempty, hdot, -⟩, hslash⟩ := hrest part hpart
    exact ⟨hempty, hdot, hslash⟩

/-! ## Normal names -/

/-- The parts of a name after the slashes at its start. -/
def parts (name : List Char) : List (List Char) :=
  splitOn '/' (name.dropWhile (· == '/'))

/-- A name without empty parts and single dots, with double dots at its start only, and at none if
it starts at the root. Resolving its dots again changes nothing. -/
structure IsNormal (name : List Char) : Prop where
  of_mem : ∀ part ∈ parts name, part ≠ [] ∧ part ≠ ['.']
  ups_first : ∃ ups rest, parts name = List.replicate ups ['.', '.'] ++ rest ∧
    ['.', '.'] ∉ rest ∧ (name.head? = some '/' → ups = 0)
  normalize_eq : normalize name = name

/-- The parts of a path after its dots have been resolved. -/
def resolvedParts (path : List Char) : List (List Char) :=
  ((splitOn '/' path).foldl (pushPart (rootSlashes path != 0)) []).reverse

/-- The dots of these parts are resolved. -/
theorem resolved_resolved_parts (path : List Char) :
    Resolved (rootSlashes path != 0) (resolvedParts path) :=
  resolved_foldl (fun _ => Text.not_mem_of_mem_split_on)
    ⟨0, [], rfl, List.forall_mem_nil _, fun _ => rfl⟩

/-- If the last part of a path is plain it is not removed. -/
theorem resolved_parts_ne_nil {path : List Char} (h : IsPlain (baseName path)) :
    resolvedParts path ≠ [] := by
  obtain ⟨before, hparts⟩ := split_on_eq_concat_base_name path
  rw [resolvedParts, hparts, List.foldl_append, List.foldl_cons, List.foldl_nil,
    push_part_of_is_plain h, List.reverse_cons]
  simp

/-- Joined parts that are not empty and have no slashes in them start with something else. -/
theorem exists_join_with_eq_cons {parts : List (List Char)} (hne : parts ≠ [])
    (h : ∀ part ∈ parts, part ≠ [] ∧ '/' ∉ part) :
    ∃ c cs, joinWith ['/'] parts = c :: cs ∧ c ≠ '/' := by
  obtain ⟨first, more, rfl⟩ := List.exists_cons_of_ne_nil hne
  obtain ⟨hfirst, hslash⟩ := h first List.mem_cons_self
  obtain ⟨c, cs, rfl⟩ := List.exists_cons_of_ne_nil hfirst
  have hc : c ≠ '/' := fun heq => hslash (heq ▸ List.mem_cons_self)
  cases more with
  | nil => exact ⟨c, cs, by simp [joinWith], hc⟩
  | cons second more =>
      exact ⟨c, cs ++ '/' :: joinWith ['/'] (second :: more), by simp [joinWith], hc⟩

section

variable {c : Char} (hc : c ≠ '/') (cs : List Char) (n : Nat)

include hc

/-- The slashes at the start of a text end where something else starts. -/
theorem take_while_slashes :
    (List.replicate n '/' ++ c :: cs).takeWhile (· == '/') = List.replicate n '/' := by
  have hslashes : ∀ c ∈ List.replicate n '/', (c == '/') = true := by simp
  rw [List.takeWhile_append_of_pos hslashes, List.takeWhile_cons_of_neg (by simpa using hc),
    List.append_nil]

/-- Without the slashes at its start a text starts with something else. -/
theorem drop_while_slashes :
    (List.replicate n '/' ++ c :: cs).dropWhile (· == '/') = c :: cs := by
  have hslashes : ∀ c ∈ List.replicate n '/', (c == '/') = true := by simp
  rw [List.dropWhile_append_of_pos hslashes, List.dropWhile_cons_of_neg (by simpa using hc)]

/-- The slashes that are kept at the start of a path are all kept the next time. -/
theorem root_slashes_replicate_append (path : List Char) :
    rootSlashes (List.replicate (rootSlashes path) '/' ++ c :: cs) = rootSlashes path := by
  have hkept : rootSlashes path = 0 ∨ rootSlashes path = 1 ∨ rootSlashes path = 2 := by
    unfold rootSlashes
    split <;> simp
  nth_rewrite 1 [rootSlashes]
  rw [take_while_slashes hc, List.length_replicate]
  rcases hkept with hkept | hkept | hkept <;> rw [hkept] <;> rfl

end

/-- A path is rooted if it starts with a slash. -/
theorem root_slashes_ne_zero_iff (path : List Char) :
    rootSlashes path ≠ 0 ↔ path.head? = some '/' := by
  unfold rootSlashes
  cases path with
  | nil => simp
  | cons c cs =>
      by_cases hc : c = '/'
      · subst hc
        split <;> simp_all
      · simp [hc]

section

variable {path : List Char} (h : resolvedParts path ≠ [])

include h

/-- The resolved parts of a path, joined, start with something else than a slash. -/
theorem exists_join_with_resolved_parts :
    ∃ c cs, joinWith ['/'] (resolvedParts path) = c :: cs ∧ c ≠ '/' := by
  refine exists_join_with_eq_cons h fun part hpart => ?_
  obtain ⟨hempty, -, hslash⟩ := (resolved_resolved_parts path).of_mem hpart
  exact ⟨hempty, hslash⟩

/-- A path of which parts are left is made normal by joining these parts. -/
theorem normalize_of_ne_nil :
    normalize path =
      List.replicate (rootSlashes path) '/' ++ joinWith ['/'] (resolvedParts path) := by
  obtain ⟨c, cs, hjoined, -⟩ := exists_join_with_resolved_parts h
  have hnormal : normalize path =
      let result := List.replicate (rootSlashes path) '/' ++ joinWith ['/'] (resolvedParts path)
      if result.isEmpty then ['.'] else result := rfl
  rw [hnormal, hjoined]
  simp

/-- The slashes at the start of a path that is made normal. -/
theorem root_slashes_normalize : rootSlashes (normalize path) = rootSlashes path := by
  obtain ⟨c, cs, hjoined, hc⟩ := exists_join_with_resolved_parts h
  rw [normalize_of_ne_nil h, hjoined, root_slashes_replicate_append hc]

/-- The parts of a path that is made normal. -/
theorem parts_normalize : parts (normalize path) = resolvedParts path := by
  obtain ⟨c, cs, hjoined, hc⟩ := exists_join_with_resolved_parts h
  rw [parts, normalize_of_ne_nil h, hjoined, drop_while_slashes hc, ← hjoined]
  exact Text.split_on_join_with h fun part hpart =>
    ((resolved_resolved_parts path).of_mem hpart).2.2

/-- A path that is made normal is cut into empty parts for its slashes and its resolved parts. -/
theorem split_on_normalize :
    splitOn '/' (normalize path) =
      List.replicate (rootSlashes path) [] ++ resolvedParts path := by
  rw [normalize_of_ne_nil h, Text.split_on_replicate_append]
  rw [Text.split_on_join_with h fun part hpart => ((resolved_resolved_parts path).of_mem hpart).2.2]

/-- Making a path normal a second time leaves its parts as they are. -/
theorem resolved_parts_normalize : resolvedParts (normalize path) = resolvedParts path := by
  have hempty (n : Nat) (rooted : Bool) :
      (List.replicate n []).foldl (pushPart rooted) [] = [] := by
    induction n with
    | zero => rfl
    | succ n ih => rw [List.replicate_succ, List.foldl_cons]; exact ih
  rw [resolvedParts, split_on_normalize h, root_slashes_normalize h, List.foldl_append, hempty,
    (resolved_resolved_parts path).foldl_eq, List.reverse_reverse]

/-- A path of which parts are left becomes normal. -/
theorem is_normal_normalize : IsNormal (normalize path) where
  of_mem := by
    rw [parts_normalize h]
    intro part hpart
    obtain ⟨hempty, hdot, -⟩ := (resolved_resolved_parts path).of_mem hpart
    exact ⟨hempty, hdot⟩
  ups_first := by
    obtain ⟨ups, rest, hparts, hrest, hups⟩ := resolved_resolved_parts path
    refine ⟨ups, rest, (parts_normalize h).trans hparts, ?_, fun hroot => hups ?_⟩
    · intro hmem
      exact (hrest _ hmem).1.2.2 rfl
    · rw [← root_slashes_ne_zero_iff, root_slashes_normalize h] at hroot
      exact bne_iff_ne.mpr hroot
  normalize_eq := by
    have hsame := resolved_parts_normalize h
    rw [normalize_of_ne_nil (hsame.symm ▸ h), hsame, root_slashes_normalize h,
      ← normalize_of_ne_nil h]

/-- A path starts at the root when it has been made normal if it did before. -/
theorem head?_normalize : (normalize path).head? = some '/' ↔ path.head? = some '/' := by
  rw [← root_slashes_ne_zero_iff, ← root_slashes_ne_zero_iff, root_slashes_normalize h]

end

/-! ## Names -/

/-- The directory of a path is a part of it. -/
theorem directory_prefix (path : List Char) : directory path <+: path := by
  have hhead : upToLastSlash path <+: path :=
    ⟨baseName path, up_to_last_slash_append_base_name path⟩
  unfold directory
  dsimp only
  split
  · exact hhead
  · refine List.IsPrefix.trans ?_ hhead
    have hsuffix := List.dropWhile_suffix (· == '/') (l := (upToLastSlash path).reverse)
    simpa using List.reverse_prefix.mpr hsuffix

/-- A path that starts at the root has a directory. -/
theorem directory_ne_nil {path : List Char} (h : path.head? = some '/') : directory path ≠ [] := by
  have hhead : upToLastSlash path ≠ [] := by
    intro hnil
    have hpath := up_to_last_slash_append_base_name path
    rw [hnil, List.nil_append] at hpath
    exact not_mem_base_name path (hpath.symm ▸ List.mem_of_mem_head? h)
  unfold directory
  dsimp only
  split
  · exact hhead
  · rename_i hslashes
    intro hnil
    have hall := List.dropWhile_eq_nil_iff.mp (List.reverse_eq_nil_iff.mp hnil)
    exact hslashes (List.all_eq_true.mpr fun c hc => hall c (List.mem_reverse.mpr hc))

/-- The directory of a path starts at the root if the path does. -/
theorem head?_directory (path : List Char) :
    (directory path).head? = some '/' ↔ path.head? = some '/' := by
  obtain ⟨rest, hrest⟩ := directory_prefix path
  constructor
  · intro h
    rw [← hrest, List.head?_append, h]
    rfl
  · intro h
    obtain ⟨c, cs, hdirectory⟩ := List.exists_cons_of_ne_nil (directory_ne_nil h)
    rw [← hrest, hdirectory] at h
    rw [hdirectory]
    exact h

/-- A path inside a directory is the path after something that ends with a slash, or after nothing,
and that starts as the directory does. -/
theorem exists_join_eq (directory : List Char) {path : List Char} (h : path.head? ≠ some '/') :
    ∃ before, join directory path = before ++ path ∧
      (before = [] ∨ before.getLast? = some '/') ∧ before.head? = directory.head? := by
  unfold join
  rw [if_neg h]
  split
  · rename_i hend
    refine ⟨directory, rfl, ?_, rfl⟩
    simpa using hend
  · rename_i hend
    obtain ⟨hne, -⟩ : directory ≠ [] ∧ directory.getLast? ≠ some '/' := by simpa using hend
    obtain ⟨c, cs, rfl⟩ := List.exists_cons_of_ne_nil hne
    exact ⟨c :: cs ++ ['/'], by simp, .inr (List.getLast?_concat ..), rfl⟩

/-- Leaving out the slashes at the start of a path does not change its last part. -/
theorem base_name_drop_while (path : List Char) :
    baseName (path.dropWhile (· == '/')) = baseName path := by
  have hslashes : path.takeWhile (· == '/') = [] ∨
      (path.takeWhile (· == '/')).getLast? = some '/' := by
    rcases List.eq_nil_or_concat (path.takeWhile (· == '/')) with hnil | ⟨before, c, hconcat⟩
    · exact .inl hnil
    · have hmem : c ∈ path.takeWhile (· == '/') := by simp [hconcat]
      have hc := List.mem_takeWhile_imp hmem
      right
      rw [hconcat, List.concat_eq_append, List.getLast?_concat, eq_of_beq hc]
  have hbase := base_name_append hslashes (path.dropWhile (· == '/'))
  rw [List.takeWhile_append_dropWhile] at hbase
  exact hbase.symm

/-- A name is a path made normal whose last part is plain. It starts at the root if it is relative
to a name that does. -/
theorem exists_resolve_chars_eq (path parent : List Char) :
    ∃ target, resolveChars path parent = normalize target ∧ IsPlain (baseName target) ∧
      (target.head? = some '/' ↔ parent.head? = some '/' ∧ path.head? ≠ some '/') := by
  have hplain := is_plain_base_name path
  have hroot : (if (extension path).isEmpty then path ++ defaultExtension else path).head? =
      some '/' ↔ path.head? = some '/' := by
    split
    · cases path <;> simp [defaultExtension]
    · rfl
  unfold resolveChars
  dsimp only
  generalize (if (extension path).isEmpty then path ++ defaultExtension else path) = extended
    at hplain hroot ⊢
  rw [ne_eq, ← hroot]
  by_cases hslash : extended.head? = some '/'
  · refine ⟨extended.dropWhile (· == '/'), if_pos hslash, ?_, ?_⟩
    · rw [base_name_drop_while]
      exact hplain
    · have hhead := List.head?_dropWhile_not (· == '/') extended
      refine iff_of_false (fun h => ?_) fun h => h.2 hslash
      rw [h] at hhead
      simp at hhead
  · rw [if_neg hslash]
    by_cases hparent : parent.isEmpty
    · obtain rfl := List.isEmpty_iff.mp hparent
      exact ⟨extended, rfl, hplain, iff_of_false hslash (by simp)⟩
    · obtain ⟨before, hjoin, hbefore, hhead⟩ := exists_join_eq (directory parent) hslash
      refine ⟨before ++ extended, ?_, ?_, ?_⟩
      · rw [if_neg hparent, hjoin]
      · rw [base_name_append hbefore]
        exact hplain
      · rw [← head?_directory parent, ← hhead, List.head?_append]
        cases before.head? <;> simp [hslash]

/-- The name that a path stands for is normal. -/
theorem is_normal_resolve_chars (path parent : List Char) :
    IsNormal (resolveChars path parent) := by
  obtain ⟨target, hname, hplain, -⟩ := exists_resolve_chars_eq path parent
  rw [hname]
  exact is_normal_normalize (resolved_parts_ne_nil hplain)

/-- The name that a path stands for starts at the root if the name that it is relative to does. -/
theorem head?_resolve_chars (path parent : List Char) :
    (resolveChars path parent).head? = some '/' ↔
      parent.head? = some '/' ∧ path.head? ≠ some '/' := by
  obtain ⟨target, hname, hplain, hroot⟩ := exists_resolve_chars_eq path parent
  rw [hname, head?_normalize (resolved_parts_ne_nil hplain)]
  exact hroot

/-! ## Names as paths of files -/

/-- The parts of a normal name are those of the path of a file. -/
theorem IsNormal.parts_of_string {name : String} (h : IsNormal name.toList) :
    (Path.ofString name).parts = (parts name.toList).map String.ofList := by
  have hslashes : name.toList.takeWhile (· == '/') =
      List.replicate (name.toList.takeWhile (· == '/')).length '/' := by
    refine List.eq_replicate_iff.mpr ⟨rfl, fun c hc => ?_⟩
    have hslash := List.mem_takeWhile_imp hc
    exact eq_of_beq hslash
  have hsplit : splitOn '/' name.toList =
      List.replicate (name.toList.takeWhile (· == '/')).length [] ++ parts name.toList := by
    rw [parts, ← Text.split_on_replicate_append, ← hslashes, List.takeWhile_append_dropWhile]
  have hkept : (parts name.toList).filter (fun part => part ≠ [] ∧ part ≠ ['.']) =
      parts name.toList :=
    List.filter_eq_self.mpr fun part hpart => decide_eq_true (h.of_mem part hpart)
  unfold Path.ofString
  dsimp only
  rw [hsplit, List.filter_append, hkept]
  simp

/-- A name that starts at the root is an absolute path of a file. -/
theorem is_absolute_of_string (name : String) :
    (Path.ofString name).isAbsolute = true ↔ name.toList.head? = some '/' := by
  unfold Path.ofString Path.isAbsolute
  dsimp only
  cases name.toList with
  | nil => simp
  | cons c cs =>
      by_cases hc : c = '/'
      · simp [hc]
        split <;> omega
      · simp [hc]

end TemplateName

end ElementMarkup
