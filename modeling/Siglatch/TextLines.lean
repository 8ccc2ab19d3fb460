import Mathlib.Data.List.TakeWhile

set_option autoImplicit false

namespace Siglatch.TextLines

/-! Texts that are read line by line into a buffer and cut into pieces at delimiters. -/

variable {α : Type*} [DecidableEq α]

/-- `strtok` on what is left of a text: the next piece and what is left behind it. -/
def strtok (delims text : List α) : Option (List α × List α) :=
  let rest := text.dropWhile (· ∈ delims)
  if rest = [] then none
  else some (rest.takeWhile (· ∉ delims), (rest.dropWhile (· ∉ delims)).tail)

/-- A loop over `fgets` with a buffer of the given size. The first list is what the buffer holds
    already. -/
def readLines (stop : α) (size : ℕ) : List α → List α → List (List α)
  | line, [] => if line = [] then [] else [line]
  | line, c :: rest =>
    if c = stop ∨ size ≤ line.length + 2 then
      (line ++ [c]) :: readLines stop size [] rest
    else readLines stop size (line ++ [c]) rest

/-- The same loop, with what each read says about the end of the file. -/
def readPieces (stop : α) (size : ℕ) : List α → List α → List (List α × Bool)
  | line, [] => if line = [] then [] else [(line, true)]
  | line, c :: rest =>
    if c = stop ∨ size ≤ line.length + 2 then
      (line ++ [c], false) :: readPieces stop size [] rest
    else readPieces stop size (line ++ [c]) rest

/-- Lines behind one another, the last of them with or without its delimiter. -/
def joined (stop : α) (final : Bool) : List (List α) → List α
  | [] => []
  | [line] => if final then line ++ [stop] else line
  | line :: next :: more => line ++ stop :: joined stop final (next :: more)

section strtok
variable {delims : List α} {pad word rest : List α} {d : α}

theorem strtok_piece (hpad : ∀ c ∈ pad, c ∈ delims) (hword : ∀ c ∈ word, c ∉ delims)
    (hne : word ≠ []) (hd : d ∈ delims) :
    strtok delims (pad ++ (word ++ d :: rest)) = some (word, rest) := by
  obtain ⟨c, more, rfl⟩ := List.exists_cons_of_ne_nil hne
  have hfront : (pad ++ (c :: more ++ d :: rest)).dropWhile (· ∈ delims) =
      c :: more ++ d :: rest := by
    rw [List.dropWhile_append_of_pos fun a ha => decide_eq_true (hpad a ha), List.cons_append,
      List.dropWhile_cons_of_neg (by simpa using hword c List.mem_cons_self)]
  have hall : ∀ a ∈ c :: more, decide (a ∉ delims) = true :=
    fun a ha => decide_eq_true (hword a ha)
  have htake : (c :: more ++ d :: rest).takeWhile (· ∉ delims) = c :: more := by
    rw [List.takeWhile_append_of_pos hall]
    simp [hd]
  have hdrop : (c :: more ++ d :: rest).dropWhile (· ∉ delims) = d :: rest := by
    rw [List.dropWhile_append_of_pos hall]
    simp [hd]
  unfold strtok
  simp only [hfront, htake, hdrop]
  rfl

theorem strtok_parts {text : List α} (h : strtok delims text = some (word, rest)) :
    (∀ c ∈ word, c ∉ delims) ∧ ∃ front back, text = front ++ (word ++ back) ∧ rest = back.tail := by
  unfold strtok at h
  simp only at h
  split at h
  · cases h
  obtain ⟨rfl, rfl⟩ := Prod.mk.inj (Option.some.inj h)
  refine ⟨fun c hc => by simpa using List.mem_takeWhile_imp hc, ?_⟩
  refine ⟨text.takeWhile (· ∈ delims), _, ?_, rfl⟩
  rw [List.takeWhile_append_dropWhile, List.takeWhile_append_dropWhile]

end strtok

section readLines
variable {stop : α} {size : ℕ}

theorem readPieces_lines (line text : List α) :
    (readPieces stop size line text).map Prod.fst = readLines stop size line text := by
  induction text generalizing line with
  | nil =>
    unfold readPieces readLines
    split <;> rfl
  | cons c rest ih =>
    unfold readPieces readLines
    split
    · rw [List.map_cons, ih]
    · exact ih (line ++ [c])

theorem readPieces_grow (body : List α) (hbody : stop ∉ body) (line rest : List α)
    (hfits : line.length + body.length + 1 < size) :
    readPieces stop size line (body ++ rest) = readPieces stop size (line ++ body) rest := by
  induction body generalizing line with
  | nil => rw [List.nil_append, List.append_nil]
  | cons c body ih =>
    rw [List.length_cons] at hfits
    have hc : c ≠ stop := fun heq => hbody (heq ▸ List.mem_cons_self)
    have hroom : ¬ (c = stop ∨ size ≤ line.length + 2) := not_or.mpr ⟨hc, by omega⟩
    have hrest := ih (fun hmem => hbody (List.mem_cons_of_mem c hmem)) (line ++ [c]) (by
      rw [List.length_append, List.length_singleton]
      omega)
    rw [List.cons_append, readPieces, if_neg hroom, hrest, List.append_assoc,
      List.singleton_append]

theorem readPieces_line (body : List α) (hbody : stop ∉ body) (line rest : List α)
    (hfits : line.length + body.length + 1 < size) :
    readPieces stop size line (body ++ stop :: rest) =
      (line ++ (body ++ [stop]), false) :: readPieces stop size [] rest := by
  rw [readPieces_grow body hbody line _ hfits, readPieces, if_pos (.inl rfl), List.append_assoc]

theorem readPieces_end (body : List α) (hbody : stop ∉ body) (line : List α)
    (hfits : line.length + body.length + 1 < size) (hne : line ++ body ≠ []) :
    readPieces stop size line body = [(line ++ body, true)] := by
  have hgrown := readPieces_grow body hbody line [] hfits
  rw [List.append_nil] at hgrown
  rw [hgrown, readPieces, if_neg hne]

theorem readPieces_full (body : List α) (hbody : stop ∉ body) (hne : body ≠ [])
    (line rest : List α) (hfull : line.length + body.length + 1 = size) :
    readPieces stop size line (body ++ rest) =
      (line ++ body, false) :: readPieces stop size [] rest := by
  obtain ⟨front, last, rfl⟩ := (List.eq_nil_or_concat body).resolve_left hne
  rw [List.concat_eq_append] at hbody hfull ⊢
  rw [List.length_append, List.length_singleton] at hfull
  have hfront : stop ∉ front := fun hmem => hbody (List.mem_append_left _ hmem)
  have hroom : last = stop ∨ size ≤ (line ++ front).length + 2 := .inr (by
    rw [List.length_append]
    omega)
  rw [List.append_assoc, List.singleton_append, readPieces_grow front hfront line _ (by omega),
    readPieces, if_pos hroom, List.append_assoc]

/-- The delimiter ends all pieces but a last one that has something in it. -/
def pieces (stop : α) (final : Bool) : List (List α) → List (List α × Bool)
  | [] => []
  | [line] => if final then [(line ++ [stop], false)] else if line = [] then [] else [(line, true)]
  | line :: next :: more => (line ++ [stop], false) :: pieces stop final (next :: more)

omit [DecidableEq α] in
theorem joined_begins (final : Bool) (line : List α) (more : List (List α)) :
    line <+: joined stop final (line :: more) := by
  cases more with
  | nil =>
    unfold joined
    split
    · exact List.prefix_append line [stop]
    · exact List.prefix_rfl
  | cons next more => exact List.prefix_append line _

theorem joined_splitOn (text : List α) : joined stop false (text.splitOn stop) = text := by
  have whole (lines : List (List α)) :
      joined stop false lines = [stop].intercalate lines := by
    induction lines with
    | nil => rfl
    | cons line lines ih =>
      cases lines with
      | nil => rw [joined, List.intercalate_singleton]; rfl
      | cons next more =>
        rw [joined, ih, List.intercalate_cons_cons, List.append_assoc]
        rfl
  rw [whole, List.intercalate_splitOn]

theorem not_mem_splitOn (text : List α) : ∀ line ∈ text.splitOn stop, stop ∉ line := by
  induction text with
  | nil =>
    intro line member
    obtain rfl := List.mem_singleton.mp member
    exact List.not_mem_nil
  | cons c rest ih =>
    rw [List.splitOn_cons_eq_if_modifyHead]
    split
    · exact List.forall_mem_cons.mpr ⟨List.not_mem_nil, ih⟩
    · rename_i other
      obtain ⟨first, more, cut⟩ := List.exists_cons_of_ne_nil (List.splitOn_ne_nil stop rest)
      rw [cut] at ih ⊢
      obtain ⟨clean, later⟩ := List.forall_mem_cons.mp ih
      have c_clean : stop ≠ c := fun same => other (beq_iff_eq.mpr same.symm)
      exact List.forall_mem_cons.mpr ⟨List.not_mem_cons_of_ne_of_not_mem c_clean clean, later⟩

omit [DecidableEq α] in
theorem joined_append (final : Bool) (front : List (List α)) (line : List α)
    (more : List (List α)) : joined stop final (front ++ line :: more) =
      joined stop true front ++ joined stop final (line :: more) := by
  induction front with
  | nil => rfl
  | cons first front ih =>
    cases front with
    | nil => simp [joined]
    | cons next rest =>
      rw [List.cons_append, List.cons_append, joined, ← List.cons_append, ih, joined,
        List.append_assoc, List.cons_append]

theorem readPieces_append (front : List (List α))
    (h : ∀ line ∈ front, stop ∉ line ∧ line.length + 1 < size) (rest : List α) :
    readPieces stop size [] (joined stop true front ++ rest) =
      pieces stop true front ++ readPieces stop size [] rest := by
  induction front with
  | nil => rfl
  | cons line front ih =>
    obtain ⟨hclean, hfits⟩ := h line List.mem_cons_self
    have hroom : ([] : List α).length + line.length + 1 < size := by
      rwa [List.length_nil, Nat.zero_add]
    cases front with
    | nil =>
      have hline := readPieces_line line hclean [] rest hroom
      rw [joined, pieces, if_pos rfl, if_pos rfl, List.append_assoc, List.singleton_append, hline]
      rfl
    | cons next more =>
      rw [joined, pieces, List.append_assoc, List.cons_append,
        readPieces_line line hclean [] _ hroom, ih fun l hl => h l (List.mem_cons_of_mem line hl)]
      rfl

theorem readPieces_joined (final : Bool) (lines : List (List α))
    (h : ∀ line ∈ lines, stop ∉ line ∧ line.length + 1 < size) :
    readPieces stop size [] (joined stop final lines) = pieces stop final lines := by
  induction lines with
  | nil => rfl
  | cons line lines ih =>
    obtain ⟨hclean, hfits⟩ := h line List.mem_cons_self
    have hroom : ([] : List α).length + line.length + 1 < size := by
      rwa [List.length_nil, Nat.zero_add]
    cases lines with
    | nil =>
      unfold joined pieces
      split
      · exact readPieces_line line hclean [] [] hroom
      split
      · rename_i hempty
        rw [hempty, readPieces, if_pos rfl]
      · rename_i hne
        exact readPieces_end line hclean [] hroom hne
    | cons next more =>
      rw [joined, pieces, readPieces_line line hclean [] _ hroom,
        ih fun l hl => h l (List.mem_cons_of_mem line hl), List.nil_append]

theorem readLines_line (body : List α) (hbody : stop ∉ body) (line rest : List α)
    (hfits : line.length + body.length + 1 < size) :
    readLines stop size line (body ++ stop :: rest) =
      (line ++ (body ++ [stop])) :: readLines stop size [] rest := by
  rw [← readPieces_lines, readPieces_line body hbody line rest hfits, List.map_cons,
    readPieces_lines]

theorem readLines_flatten (bodies : List (List α))
    (h : ∀ body ∈ bodies, stop ∉ body ∧ body.length + 1 < size) :
    readLines stop size [] (bodies.map (· ++ [stop])).flatten = bodies.map (· ++ [stop]) := by
  induction bodies with
  | nil => rfl
  | cons body bodies ih =>
    obtain ⟨hclean, hfits⟩ := h body List.mem_cons_self
    have hrest := ih fun b hb => h b (List.mem_cons_of_mem body hb)
    have hline := readLines_line body hclean [] (bodies.map (· ++ [stop])).flatten (by simpa)
    rw [List.map_cons, List.flatten_cons, List.append_assoc, List.singleton_append, hline, hrest]
    rfl

/-- The delimiter of lines is the last of a line or not in it. -/
theorem readLines_stop (line text : List α) (hline : stop ∉ line) :
    ∀ l ∈ readLines stop size line text, stop ∉ l.dropLast := by
  induction text generalizing line with
  | nil =>
    intro l hl
    unfold readLines at hl
    split at hl
    · cases hl
    · obtain rfl := List.mem_singleton.mp hl
      exact fun hmem => hline (List.dropLast_subset _ hmem)
  | cons c rest ih =>
    intro l hl
    unfold readLines at hl
    split at hl
    · rcases List.mem_cons.mp hl with rfl | hl
      · rwa [List.dropLast_concat]
      · exact ih [] List.not_mem_nil l hl
    · rename_i hroom
      have hc : c ≠ stop := fun heq => hroom (.inl heq)
      exact ih (line ++ [c]) (by simp [hline, Ne.symm hc]) l hl

end readLines

end Siglatch.TextLines
