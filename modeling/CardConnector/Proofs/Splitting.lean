import Mathlib.Data.String.Basic

/-! # Splitting texts

Texts are split at positions of bytes. For a separator of one character that comes to the
same as splitting the list of the characters.
-/

namespace CardConnector.Text

open String (ofList utf8Len)

theorem splitOnAux_singleton (separator : Char) (l m r : List Char) (acc : List String) :
    String.splitOnAux (ofList (l ++ m ++ r)) (ofList [separator]) ⟨utf8Len l⟩
        ⟨utf8Len (l ++ m)⟩ 0 acc =
      acc.reverse ++ (List.splitOnPPrepend (· == separator) r m.reverse).map ofList := by
  have hone : (0 : String.Pos.Raw).next (ofList [separator]) = ⟨separator.utf8Size⟩ := by
    simpa using String.next_of_valid [] separator []
  have hover : (⟨separator.utf8Size⟩ : String.Pos.Raw).atEnd (ofList [separator]) = true := by
    simpa using String.atEnd_of_valid [separator] []
  have hstart : (0 : String.Pos.Raw).get (ofList [separator]) = separator := by
    simpa using String.get_of_valid [] [separator]
  induction r generalizing l m acc with
  | nil =>
      have hend := (String.atEnd_of_valid (l ++ m) []).mpr rfl
      have hpart := String.extract_of_valid l m []
      rw [← String.utf8Len_append] at hpart
      rw [String.splitOnAux, if_pos hend, hpart]
      simp
  | cons c r ih =>
      have hend : ¬ (⟨utf8Len (l ++ m)⟩ : String.Pos.Raw).atEnd
          (ofList (l ++ m ++ c :: r)) = true :=
        fun h => nomatch (String.atEnd_of_valid (l ++ m) (c :: r)).mp h
      have hget := String.get_of_valid (l ++ m) (c :: r)
      have hnext := String.next_of_valid (l ++ m) c r
      have hpart := String.extract_of_valid l m (c :: r)
      rw [← String.utf8Len_append] at hpart
      rw [String.splitOnAux, if_neg hend, hget, hstart]
      simp only [hnext, hone, hover]
      by_cases hc : c = separator
      · subst hc
        have hback : (⟨utf8Len (l ++ m) + c.utf8Size⟩ : String.Pos.Raw).unoffsetBy ⟨c.utf8Size⟩ =
            ⟨utf8Len (l ++ m)⟩ := by
          ext
          simp
        have hrest := ih (l ++ m ++ [c]) [] (ofList m :: acc)
        have hsize : utf8Len (l ++ m ++ [c]) = utf8Len (l ++ m) + c.utf8Size := by simp; omega
        have htext : l ++ m ++ [c] ++ r = l ++ m ++ c :: r := by simp
        rw [List.append_nil, hsize] at hrest
        rw [htext] at hrest
        simp only [List.headD_cons, BEq.rfl, if_true, hback, hpart]
        rw [hrest]
        simp [List.splitOnPPrepend_cons_eq_if]
      · have hrest := ih l (m ++ [c]) acc
        have hsize : utf8Len (l ++ (m ++ [c])) = utf8Len (l ++ m) + c.utf8Size := by simp; omega
        have htext : l ++ (m ++ [c]) ++ r = l ++ m ++ c :: r := by simp
        have hzero : (⟨utf8Len (l ++ m)⟩ : String.Pos.Raw).unoffsetBy 0 = ⟨utf8Len (l ++ m)⟩ := by
          ext
          simp
        rw [htext, hsize] at hrest
        simp only [List.headD_cons, beq_eq_false_iff_ne.mpr hc, hzero, hnext]
        rw [if_neg (by simp), hrest]
        simp [List.splitOnPPrepend_cons_eq_if, hc]

/-- Splitting at a character is splitting the list of the characters. -/
theorem splitOn_singleton (separator : Char) (text : String) :
    text.splitOn (String.singleton separator) = (text.toList.splitOn separator).map ofList := by
  have hparts := splitOnAux_singleton separator [] [] text.toList []
  rw [List.append_nil, List.nil_append, String.ofList_toList] at hparts
  rw [String.splitOn, if_neg (by simp)]
  exact hparts

theorem splitOn_slash (text : String) :
    text.splitOn "/" = (text.toList.splitOn '/').map ofList := splitOn_singleton '/' text

theorem splitOn_dot (text : String) :
    text.splitOn "." = (text.toList.splitOn '.').map ofList := splitOn_singleton '.' text

end CardConnector.Text
