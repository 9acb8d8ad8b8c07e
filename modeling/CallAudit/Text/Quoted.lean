import CallAudit.Text.Category

/-!
# Quoted text

A text between quotes with every character that would not show escaped: a few by a letter, the others
by their code point in braces. Letters and symbols of all scripts stand as they are, but not marks that
would join the character before them.

* `quote`: a text between its quotes.
-/
namespace CallAudit.Text.Quoted

/-- Spacing marks and others that extend the character before them. -/
def otherExtenders : List (Nat × Nat) :=
  [(0x09BE, 0x09BE), (0x09D7, 0x09D7), (0x0B3E, 0x0B3E), (0x0B57, 0x0B57), (0x0BBE, 0x0BBE),
    (0x0BD7, 0x0BD7), (0x0CC2, 0x0CC2), (0x0CD5, 0x0CD6), (0x0D3E, 0x0D3E), (0x0D57, 0x0D57),
    (0x0DCF, 0x0DCF), (0x0DDF, 0x0DDF), (0x1B35, 0x1B35), (0x200C, 0x200C), (0x302E, 0x302F),
    (0xFF9E, 0xFF9F), (0x1133E, 0x1133E), (0x11357, 0x11357), (0x114B0, 0x114B0),
    (0x114BD, 0x114BD), (0x115AF, 0x115AF), (0x11930, 0x11930), (0x1D165, 0x1D165),
    (0x1D16E, 0x1D172), (0xE0020, 0xE007F)]

/-- Does the character join the one before it? -/
def extendsGrapheme (c : Char) : Bool :=
  Category.of c == .mn || Category.of c == .me ||
    otherExtenders.any (fun r => r.1 ≤ c.toNat && c.toNat ≤ r.2)

/-- Does the character show as it is? -/
def isPlain (c : Char) : Bool :=
  if c.toNat < 0x7f then 0x20 ≤ c.toNat
  else !([.zs, .zl, .zp, .cc, .cf, .cs, .co, .cn].contains (Category.of c) || extendsGrapheme c)

/-- The code point in braces. -/
def byPoint (c : Char) : List Char :=
  '\\' :: 'u' :: '\x7b' :: Nat.toDigits 16 c.toNat ++ ['\x7d']

/-- The character as it stands between quotes. -/
def escape (c : Char) : List Char :=
  if c = '\x00' then ['\\', '0']
  else if c = '\t' then ['\\', 't']
  else if c = '\r' then ['\\', 'r']
  else if c = '\n' then ['\\', 'n']
  else if c = '\\' ∨ c = '\x22' then ['\\', c]
  else if isPlain c then [c]
  else byPoint c

/-- The text between quotes. -/
def quote (s : String) : String := String.ofList ('\x22' :: s.toList.flatMap escape ++ ['\x22'])

end CallAudit.Text.Quoted
