import Cyclomatic.Assembly.Line

/-!
# Opcodes that decide

The two assembler dialects and the opcodes of each that add a decision point. The opcodes stand
in named categories, which share no opcode.
-/

namespace Cyclomatic.Assembly

/-- The assembler dialects. -/
inductive Dialect where
  | x86
  | mos6502
deriving DecidableEq, Repr

/-- A named group of opcodes that each add a decision point. -/
structure Category where
  name : String
  opcodes : List String

/-- The conditional instructions of x86 and x64. -/
def x86Categories : List Category := [
  ⟨"conditional_jump", [
    "JA", "JAE", "JB", "JBE", "JC", "JCXZ", "JE", "JECXZ", "JG", "JGE", "JL", "JLE", "JNA",
    "JNAE", "JNB", "JNBE", "JNC", "JNE", "JNG", "JNGE", "JNL", "JNLE", "JNO", "JNP", "JNS",
    "JNZ", "JO", "JP", "JPE", "JPO", "JRCXZ", "JS", "JZ"]⟩,
  ⟨"loop", ["LOOP", "LOOPE", "LOOPNE", "LOOPNZ", "LOOPZ"]⟩,
  ⟨"conditional_move", [
    "CMOVA", "CMOVAE", "CMOVB", "CMOVBE", "CMOVE", "CMOVG", "CMOVGE", "CMOVL", "CMOVLE",
    "CMOVNE", "CMOVNO", "CMOVNP", "CMOVNS", "CMOVNZ", "CMOVO", "CMOVP", "CMOVS", "CMOVZ"]⟩]

/-- The conditional branches of the 6502 and the bit branches of the 65C02. -/
def mos6502Categories : List Category := [
  ⟨"conditional_branch", ["BCC", "BCS", "BEQ", "BMI", "BNE", "BPL", "BVC", "BVS"]⟩,
  ⟨"bit_branch", [
    "BBR0", "BBR1", "BBR2", "BBR3", "BBR4", "BBR5", "BBR6", "BBR7",
    "BBS0", "BBS1", "BBS2", "BBS3", "BBS4", "BBS5", "BBS6", "BBS7"]⟩]

/-- The categories of a dialect. The opcodes of each are in alphabetical order. -/
def Dialect.categories : Dialect → List Category
  | .x86 => x86Categories
  | .mos6502 => mos6502Categories

/-- The decision points of a line: in how many categories its opcode stands. -/
def Dialect.points (dialect : Dialect) (line : List Char) : Nat :=
  let op := opcode line
  dialect.categories.countP fun category => category.opcodes.contains op

end Cyclomatic.Assembly
