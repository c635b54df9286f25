import Mathlib.Data.List.Basic

/-! SQL texts as PostgreSQL reads them: the tokens, the statements that semicolons end, and which of
these control transactions. The lexer takes one character at a time, so that what it reads of a
text is what it reads of the first part and then, from where that left it, of the rest.
-/

namespace RomaBridge.Foundation.SqlText

/-- A token. A word is an identifier, a keyword or a number; a quoted text has its quotes. -/
inductive Token where
  | word (text : List Char)
  | quoted (text : List Char)
  | symbol (c : Char)
  deriving DecidableEq

/-- A statement is its tokens. -/
abbrev Statement := List Token

/-- What the next character belongs to. What was read of a token is given reversed. -/
inductive Mode where
  | code
  | word (text : List Char)
  | dash
  | slash
  | lineComment
  | blockComment (depth : ℕ) (last : Option Char)
  | quoted (mark : Char) (escapes skips : Bool) (text : List Char)
  | quoteEnd (mark : Char) (escapes : Bool) (text : List Char)
  | dollar (tag : List Char)
  | dollarQuoted (tag text : List Char)
  deriving DecidableEq

/-- A lexer: the tokens of the statement that goes on, the newest first, and how many parentheses
and SQL-standard function bodies are open in it.
-/
structure Lexer where
  mode : Mode
  tokens : List Token
  parens : ℕ
  blocks : ℕ
  deriving DecidableEq

/-- At the start of a text, or after a statement. -/
def Lexer.start : Lexer := ⟨.code, [], 0, 0⟩

-- Characters

def isSpace (c : Char) : Bool := (9 ≤ c.toNat && c.toNat ≤ 13) || c = ' '

/-- A character of a word, not a dollar sign. -/
def isWordChar (c : Char) : Bool := c.isAlphanum || c = '_' || 128 ≤ c.toNat

/-- A keyword is read in either case. -/
def capitals (text : List Char) : List Char := text.map Char.toUpper

def Token.keyword : Token → String
  | .word text => String.ofList (capitals text)
  | _ => ""

/-- The statement creates a function or a procedure, so `BEGIN` starts an SQL-standard body. -/
def createsRoutine (statement : Statement) : Bool :=
  match statement.map Token.keyword with
  | "CREATE" :: "OR" :: "REPLACE" :: kind :: _ | "CREATE" :: kind :: _ =>
      kind = "FUNCTION" || kind = "PROCEDURE"
  | _ => false

-- The lexer

/-- The bodies that are open after a word. -/
def blocksAfter (lexer : Lexer) (word : Token) : ℕ :=
  if lexer.parens = 0 ∧ createsRoutine lexer.tokens.reverse = true then
    if word.keyword = "BEGIN" then lexer.blocks + 1
    else if word.keyword = "CASE" ∧ 0 < lexer.blocks then lexer.blocks + 1
    else if word.keyword = "END" then lexer.blocks - 1
    else lexer.blocks
  else
    lexer.blocks

def Lexer.push (lexer : Lexer) (token : Token) : Lexer :=
  { lexer with
    mode := .code
    tokens := token :: lexer.tokens
    blocks := blocksAfter lexer token }

/-- A character between two tokens. A semicolon ends the statement unless something is open. -/
def Lexer.between (lexer : Lexer) (c : Char) : Lexer × List Statement :=
  if isSpace c then (lexer, [])
  else if isWordChar c then ({ lexer with mode := .word [c] }, [])
  else
    match c with
    | '-' => ({ lexer with mode := .dash }, [])
    | '/' => ({ lexer with mode := .slash }, [])
    | '$' => ({ lexer with mode := .dollar [] }, [])
    | '\'' => ({ lexer with mode := .quoted '\'' false false ['\''] }, [])
    | '"' => ({ lexer with mode := .quoted '"' false false ['"'] }, [])
    | '(' => ({ lexer.push (.symbol '(') with parens := lexer.parens + 1 }, [])
    | ')' => ({ lexer.push (.symbol ')') with parens := lexer.parens - 1 }, [])
    | ';' =>
        if lexer.parens = 0 ∧ lexer.blocks = 0 then
          (.start, if lexer.tokens = [] then [] else [lexer.tokens.reverse])
        else
          (lexer.push (.symbol ';'), [])
    | _ => (lexer.push (.symbol c), [])

/-- A character in a word. A quote after an `E` starts a string with escapes. -/
def Lexer.inWord (lexer : Lexer) (text : List Char) (c : Char) : Lexer × List Statement :=
  if isWordChar c || c = '$' then ({ lexer with mode := .word (c :: text) }, [])
  else if c = '\'' ∧ capitals text = ['E'] then
    ({ lexer with mode := .quoted '\'' true false (c :: text) }, [])
  else (lexer.push (.word text.reverse)).between c

/-- A character after a dollar sign and the start of a tag. -/
def Lexer.inTag (lexer : Lexer) (tag : List Char) (c : Char) : Lexer × List Statement :=
  if c = '$' then ({ lexer with mode := .dollarQuoted tag.reverse [] }, [])
  else if isWordChar c && !(tag = [] && c.isDigit) then
    ({ lexer with mode := .dollar (c :: tag) }, [])
  else if tag = [] then
    (lexer.push (.symbol '$')).between c
  else
    (lexer.push (.symbol '$')).inWord tag c

/-- The next character. -/
def Lexer.step (lexer : Lexer) (c : Char) : Lexer × List Statement :=
  match lexer.mode with
  | .code => lexer.between c
  | .word text => lexer.inWord text c
  | .dash =>
      if c = '-' then ({ lexer with mode := .lineComment }, [])
      else (lexer.push (.symbol '-')).between c
  | .slash =>
      if c = '*' then ({ lexer with mode := .blockComment 1 none }, [])
      else (lexer.push (.symbol '/')).between c
  | .lineComment =>
      if c = '\n' ∨ c = '\r' then ({ lexer with mode := .code }, []) else (lexer, [])
  | .blockComment depth last =>
      if last = some '*' ∧ c = '/' then
        ({ lexer with mode := if depth ≤ 1 then .code else .blockComment (depth - 1) none }, [])
      else if last = some '/' ∧ c = '*' then
        ({ lexer with mode := .blockComment (depth + 1) none }, [])
      else
        ({ lexer with
          mode := .blockComment depth (if c = '*' ∨ c = '/' then some c else none) }, [])
  | .quoted mark escapes skips text =>
      if skips then
        ({ lexer with mode := .quoted mark escapes false (c :: text) }, [])
      else if escapes ∧ c = '\\' then
        ({ lexer with mode := .quoted mark escapes true (c :: text) }, [])
      else if c = mark then
        ({ lexer with mode := .quoteEnd mark escapes (c :: text) }, [])
      else
        ({ lexer with mode := .quoted mark escapes false (c :: text) }, [])
  | .quoteEnd mark escapes text =>
      if c = mark then ({ lexer with mode := .quoted mark escapes false (c :: text) }, [])
      else (lexer.push (.quoted text.reverse)).between c
  | .dollar tag => lexer.inTag tag c
  | .dollarQuoted tag text =>
      if ('$' :: tag ++ ['$']).reverse.isPrefixOf (c :: text) then
        (lexer.push (.quoted ('$' :: tag ++ '$' :: (c :: text).reverse)), [])
      else ({ lexer with mode := .dollarQuoted tag (c :: text) }, [])

/-- What a text leaves, and the statements it ends. -/
def Lexer.run (lexer : Lexer) : List Char → Lexer × List Statement
  | [] => (lexer, [])
  | c :: rest =>
      (((lexer.step c).1.run rest).1, (lexer.step c).2 ++ ((lexer.step c).1.run rest).2)

/-- The statement that the end of a text ends. -/
def Lexer.last (lexer : Lexer) : List Statement :=
  if lexer.tokens = [] then [] else [lexer.tokens.reverse]

/-- The statements of the rest of a text, if no quotation or comment is left open. -/
def Lexer.read (lexer : Lexer) (rest : List Char) : Option (List Statement) :=
  if (lexer.run rest).1.mode = .code then some ((lexer.run rest).2 ++ (lexer.run rest).1.last)
  else none

/-- The statements of a text. Its end ends a word or a line comment as a line break does. -/
def statements? (text : String) : Option (List Statement) :=
  Lexer.start.read (text.toList ++ ['\n'])

theorem Lexer.read_nil (lexer : Lexer)
    : lexer.read [] = if lexer.mode = .code then some lexer.last else none := rfl

/-- Two parts of a text are read one after the other. Induction on the first part. -/
theorem Lexer.run_append (lexer : Lexer) (first rest : List Char)
    : lexer.run (first ++ rest)
      = (((lexer.run first).1.run rest).1, (lexer.run first).2 ++ ((lexer.run first).1.run rest).2)
    := by
  induction first generalizing lexer with
  | nil => rfl
  | cons c first ih => simp [Lexer.run, ih]

theorem Lexer.read_append (lexer : Lexer) (first rest : List Char)
    : lexer.read (first ++ rest)
      = ((lexer.run first).1.read rest).map (fun later => (lexer.run first).2 ++ later) := by
  unfold Lexer.read
  rw [Lexer.run_append]
  dsimp only
  split <;> simp

-- Transaction control

/-- What a statement does to the transaction block. A new block may follow at once. -/
inductive Control where
  | plain
  | opens
  | commits (chains : Bool)
  | rollsBack (chains : Bool)
  | prepares
  deriving DecidableEq

/-- `AND CHAIN` at the end. -/
def chains (keywords : List String) : Bool := ["AND", "CHAIN"].isSuffixOf keywords

def control (statement : Statement) : Control :=
  match statement.map Token.keyword with
  | "BEGIN" :: _ | "START" :: "TRANSACTION" :: _ => .opens
  | "COMMIT" :: "PREPARED" :: _ | "ROLLBACK" :: "PREPARED" :: _ => .plain
  | "COMMIT" :: options | "END" :: options => .commits (chains options)
  | "ROLLBACK" :: options => if "TO" ∈ options then .plain else .rollsBack (chains options)
  | "ABORT" :: options => .rollsBack (chains options)
  | "PREPARE" :: "TRANSACTION" :: _ => .prepares
  | _ => .plain

def isWrapper (statement : Statement) : Bool :=
  match control statement with
  | .opens | .commits _ => true
  | _ => false

end RomaBridge.Foundation.SqlText
