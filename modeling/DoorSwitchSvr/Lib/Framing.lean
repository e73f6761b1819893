import Mathlib.Data.List.Basic

/-!
# Frames of a fixed length

`cut n bytes` cuts a stream into the pieces of length `n` it consists of, the last one
possibly shorter.  A stream put together from frames of length `n` is cut back into those
frames (`cut_flatten`).
-/

universe u

namespace Framing

variable {β : Type u}

/-- The stream cut into pieces of length `n`. -/
def cut (n : ℕ) (bytes : List β) : List (List β) :=
  if n = 0 ∨ bytes = [] then []
  else bytes.take n :: cut n (bytes.drop n)
  termination_by bytes.length
  decreasing_by
    rename_i h
    rw [not_or] at h
    have := List.length_pos_iff.mpr h.2
    simp only [List.length_drop]
    omega

@[simp]
theorem cut_nil (n : ℕ) :
  cut n ([] : List β) = []
  := by
  rw [cut, if_pos (Or.inr rfl)]

/-- A frame at the head of a stream is cut off. -/
theorem cut_append {n : ℕ} (hn : n ≠ 0) {f : List β} (hf : f.length = n) (bytes : List β) :
  cut n (f ++ bytes) = f :: cut n bytes
  := by
  have hne : f ++ bytes ≠ [] := by
    rintro h
    apply hn
    rw [← hf, (List.append_eq_nil_iff.mp h).1, List.length_nil]
  rw [cut, if_neg (not_or.mpr ⟨hn, hne⟩), ← hf, List.take_left, List.drop_left]

/-- What follows frames of length `n` is cut as if it stood alone. -/
theorem cut_flatten_append {n : ℕ} (hn : n ≠ 0) (bytes : List β) :
    ∀ {fs : List (List β)}, (∀ f ∈ fs, f.length = n) →
      cut n (fs.flatten ++ bytes) = fs ++ cut n bytes
  | [], _ => rfl
  | f :: fs, h => by
      rw [List.flatten_cons, List.append_assoc, cut_append hn (h f List.mem_cons_self)]
      rw [cut_flatten_append hn bytes (fun f' hf' => h f' (List.mem_cons_of_mem f hf'))]
      rfl

/-- A stream put together from frames of length `n` is cut back into those frames. -/
theorem cut_flatten {n : ℕ} (hn : n ≠ 0) {fs : List (List β)} (h : ∀ f ∈ fs, f.length = n) :
  cut n fs.flatten = fs
  := by
  have hcut := cut_flatten_append hn [] h
  rw [List.append_nil, cut_nil, List.append_nil] at hcut
  apply hcut

/-- The pieces after frames of length `n` go on where these end. -/
theorem take_mem_of_flatten_eq {n : ℕ} (hn : n ≠ 0) {fs fs' : List (List β)} {bytes : List β}
    (hfs : ∀ f ∈ fs, f.length = n) (hfs' : ∀ f ∈ fs', f.length = n) (hbytes : bytes ≠ [])
    (heq : fs.flatten = fs'.flatten ++ bytes) :
  bytes.take n ∈ fs
  := by
  rw [← cut_flatten hn hfs, heq, cut_flatten_append hn bytes hfs', cut,
    if_neg (not_or.mpr ⟨hn, hbytes⟩)]
  apply List.mem_append_right _ List.mem_cons_self

end Framing
