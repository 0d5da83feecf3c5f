import LotusAdvise.Foundations.Json

/-! # Unambiguous codes

A JSON value is coded as characters that no other value has as a code. The code of a value is never
the beginning of another one, so that values can be coded one after the other.
-/

namespace LotusAdvise.Json

/-- A number in strokes. -/
def unary (n : ℕ) : List Char := List.replicate n '1' ++ ['.']

/-- Every character after a mark. -/
def marked : List Char → List Char
  | [] => ['.']
  | c :: cs => '1' :: c :: marked cs

mutual

def code : Json → List Char
  | .null => ['n']
  | .bool b => if b then ['t'] else ['f']
  | .int (.ofNat n) => '+' :: unary n
  | .int (.negSucc n) => '-' :: unary n
  | .float repr => 'r' :: marked repr.toList
  | .str value => 's' :: marked value.toList
  | .arr items => 'a' :: codeItems items
  | .obj items => 'o' :: codeFields items

def codeItems : List Json → List Char
  | [] => ['.']
  | j :: js => ',' :: (code j ++ codeItems js)

def codeFields : List (String × Json) → List Char
  | [] => ['.']
  | (k, j) :: rest => ',' :: (marked k.toList ++ (code j ++ codeFields rest))

end

theorem unary_append_inj {m n : ℕ} {xs ys : List Char} (h : unary m ++ xs = unary n ++ ys) :
    m = n ∧ xs = ys := by
  induction m generalizing n with
  | zero =>
    cases n with
    | zero => exact ⟨rfl, (List.cons.inj h).2⟩
    | succ n => cases (List.cons.inj h).1
  | succ m ih =>
    cases n with
    | zero => cases (List.cons.inj h).1
    | succ n =>
      obtain ⟨hm, hrest⟩ := ih (n := n) (List.cons.inj h).2
      exact ⟨congrArg _ hm, hrest⟩

theorem marked_append_inj {cs ds xs ys : List Char} (h : marked cs ++ xs = marked ds ++ ys) :
    cs = ds ∧ xs = ys := by
  induction cs generalizing ds with
  | nil =>
    cases ds with
    | nil => exact ⟨rfl, (List.cons.inj h).2⟩
    | cons d ds => cases (List.cons.inj h).1
  | cons c cs ih =>
    cases ds with
    | nil => cases (List.cons.inj h).1
    | cons d ds =>
      obtain ⟨hc, hrest⟩ := List.cons.inj (List.cons.inj h).2
      obtain ⟨hcs, hxs⟩ := ih hrest
      exact ⟨by rw [hc, hcs], hxs⟩

theorem marked_text_append_inj {s t : String} {xs ys : List Char}
    (h : marked s.toList ++ xs = marked t.toList ++ ys) : s = t ∧ xs = ys :=
  (marked_append_inj h).imp_left String.toList_inj.mp

mutual

/-- What follows a code is determined, and so is the value. -/
theorem code_append_inj : ∀ {a b : Json} {xs ys : List Char}, code a ++ xs = code b ++ ys →
    a = b ∧ xs = ys
  | .null, b, xs, ys, h => by
    cases b with
    | null => exact ⟨rfl, (List.cons.inj h).2⟩
    | bool b => cases b <;> cases (List.cons.inj h).1
    | int n => cases n <;> cases (List.cons.inj h).1
    | _ => cases (List.cons.inj h).1
  | .bool a, b, xs, ys, h => by
    cases b with
    | bool b => cases a <;> cases b <;> first
      | exact ⟨rfl, (List.cons.inj h).2⟩
      | cases (List.cons.inj h).1
    | int n => cases a <;> cases n <;> cases (List.cons.inj h).1
    | _ => cases a <;> cases (List.cons.inj h).1
  | .int (.ofNat m), b, xs, ys, h => by
    cases b with
    | int n =>
      cases n with
      | ofNat n =>
        obtain ⟨rfl, hrest⟩ := unary_append_inj (List.cons.inj h).2
        exact ⟨rfl, hrest⟩
      | negSucc n => cases (List.cons.inj h).1
    | bool b => cases b <;> cases (List.cons.inj h).1
    | _ => cases (List.cons.inj h).1
  | .int (.negSucc m), b, xs, ys, h => by
    cases b with
    | int n =>
      cases n with
      | ofNat n => cases (List.cons.inj h).1
      | negSucc n =>
        obtain ⟨rfl, hrest⟩ := unary_append_inj (List.cons.inj h).2
        exact ⟨rfl, hrest⟩
    | bool b => cases b <;> cases (List.cons.inj h).1
    | _ => cases (List.cons.inj h).1
  | .float r, b, xs, ys, h => by
    cases b with
    | float r' =>
      obtain ⟨rfl, hrest⟩ := marked_text_append_inj (List.cons.inj h).2
      exact ⟨rfl, hrest⟩
    | bool b => cases b <;> cases (List.cons.inj h).1
    | int n => cases n <;> cases (List.cons.inj h).1
    | _ => cases (List.cons.inj h).1
  | .str s, b, xs, ys, h => by
    cases b with
    | str s' =>
      obtain ⟨rfl, hrest⟩ := marked_text_append_inj (List.cons.inj h).2
      exact ⟨rfl, hrest⟩
    | bool b => cases b <;> cases (List.cons.inj h).1
    | int n => cases n <;> cases (List.cons.inj h).1
    | _ => cases (List.cons.inj h).1
  | .arr items, b, xs, ys, h => by
    cases b with
    | arr items' =>
      obtain ⟨rfl, hrest⟩ := codeItems_append_inj (List.cons.inj h).2
      exact ⟨rfl, hrest⟩
    | bool b => cases b <;> cases (List.cons.inj h).1
    | int n => cases n <;> cases (List.cons.inj h).1
    | _ => cases (List.cons.inj h).1
  | .obj items, b, xs, ys, h => by
    cases b with
    | obj items' =>
      obtain ⟨rfl, hrest⟩ := codeFields_append_inj (List.cons.inj h).2
      exact ⟨rfl, hrest⟩
    | bool b => cases b <;> cases (List.cons.inj h).1
    | int n => cases n <;> cases (List.cons.inj h).1
    | _ => cases (List.cons.inj h).1

theorem codeItems_append_inj : ∀ {as bs : List Json} {xs ys : List Char},
    codeItems as ++ xs = codeItems bs ++ ys → as = bs ∧ xs = ys
  | [], [], _, _, h => ⟨rfl, (List.cons.inj h).2⟩
  | [], _ :: _, _, _, h => by cases (List.cons.inj h).1
  | _ :: _, [], _, _, h => by cases (List.cons.inj h).1
  | a :: as, b :: bs, xs, ys, h => by
    have hitems : code a ++ codeItems as ++ xs = code b ++ codeItems bs ++ ys :=
      (List.cons.inj h).2
    rw [List.append_assoc, List.append_assoc] at hitems
    obtain ⟨rfl, hrest⟩ := code_append_inj hitems
    obtain ⟨rfl, htail⟩ := codeItems_append_inj hrest
    exact ⟨rfl, htail⟩

theorem codeFields_append_inj : ∀ {as bs : List (String × Json)} {xs ys : List Char},
    codeFields as ++ xs = codeFields bs ++ ys → as = bs ∧ xs = ys
  | [], [], _, _, h => ⟨rfl, (List.cons.inj h).2⟩
  | [], _ :: _, _, _, h => by cases (List.cons.inj h).1
  | _ :: _, [], _, _, h => by cases (List.cons.inj h).1
  | (k, a) :: as, (l, b) :: bs, xs, ys, h => by
    have hfields : marked k.toList ++ (code a ++ codeFields as) ++ xs =
        marked l.toList ++ (code b ++ codeFields bs) ++ ys := (List.cons.inj h).2
    simp only [List.append_assoc] at hfields
    obtain ⟨rfl, hvalue⟩ := marked_text_append_inj hfields
    obtain ⟨rfl, hrest⟩ := code_append_inj hvalue
    obtain ⟨rfl, htail⟩ := codeFields_append_inj hrest
    exact ⟨rfl, htail⟩

end

theorem code_injective : Function.Injective code := fun _ _ h =>
  (code_append_inj (congrArg (· ++ ([] : List Char)) h)).1

end LotusAdvise.Json
