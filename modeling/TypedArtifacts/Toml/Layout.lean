namespace TypedArtifacts.Toml

def isBlank (c : Char) : Bool :=
  c = ' ' || c = '\t'

def isPlain (c : Char) : Bool :=
  c = '\t' || (32 ≤ c.toNat && c.toNat ≠ 127)

def skipBlanks (cs : List Char) : List Char :=
  cs.dropWhile isBlank

def newline? : List Char → Option (List Char)
  | '\n' :: rest => some rest
  | '\r' :: '\n' :: rest => some rest
  | _ => none

def skipComment : List Char → List Char
  | '#' :: rest => rest.dropWhile isPlain
  | cs => cs

def lineEnd? (cs : List Char) : Option (List Char) :=
  match skipComment (skipBlanks cs) with
  | [] => some []
  | rest => newline? rest

def skipLines? : Bool → List Char → Option (List Char)
  | _, '\n' :: rest => skipLines? false rest
  | _, '\r' :: '\n' :: rest => skipLines? false rest
  | _, [] => some []
  | true, c :: rest => if isPlain c then skipLines? true rest else none
  | false, c :: rest =>
    if isBlank c then skipLines? false rest
    else if c = '#' then skipLines? true rest
    else if c = '\r' then none
    else some (c :: rest)

theorem skipBlanks_of_not_blank {c : Char} (h : isBlank c = false) (cs : List Char) :
    skipBlanks (c :: cs) = c :: cs := by
  simp [skipBlanks, h]

end TypedArtifacts.Toml
