/-
Instruction sets that a module may import.

Main definitions:

* `FrameShader.InstructionSet` — the sets that are known;
* `FrameShader.InstructionSet.ofName?` — the set that is imported by a name;
* `FrameShader.InstructionSet.instructionName?` — the name of an instruction of a set.
-/

import FrameShader.Word

set_option relaxedAutoImplicit false
set_option autoImplicit false

namespace FrameShader

/-- A set of instructions besides those of every module. -/
inductive InstructionSet where
  /-- Mathematics for shaders. -/
  | shading
  /-- Mathematics for compute kernels. -/
  | compute
  deriving DecidableEq, Repr

namespace InstructionSet

/-- The set that is imported by this name. -/
def ofName? (name : String) : Option InstructionSet :=
  if name = "GLSL.std.450" then some .shading
  else if name = "OpenCL.std" then some .compute
  else none

/-- The names of the instructions, in blocks of consecutive numbers.  Each block comes with its
first number. -/
def blocks : InstructionSet → List (Nat × List String)
  | .shading =>
      [(1, ["Round", "RoundEven", "Trunc", "FAbs", "SAbs", "FSign", "SSign", "Floor", "Ceil",
         "Fract", "Radians", "Degrees", "Sin", "Cos", "Tan", "Asin", "Acos", "Atan", "Sinh",
         "Cosh", "Tanh", "Asinh", "Acosh", "Atanh", "Atan2", "Pow", "Exp", "Log", "Exp2", "Log2",
         "Sqrt", "InverseSqrt", "Determinant", "MatrixInverse", "Modf", "ModfStruct", "FMin",
         "UMin", "SMin", "FMax", "UMax", "SMax", "FClamp", "UClamp", "SClamp", "FMix", "IMix",
         "Step", "SmoothStep", "Fma", "Frexp", "FrexpStruct", "Ldexp", "PackSnorm4x8",
         "PackUnorm4x8", "PackSnorm2x16", "PackUnorm2x16", "PackHalf2x16", "PackDouble2x32",
         "UnpackSnorm2x16", "UnpackUnorm2x16", "UnpackHalf2x16", "UnpackSnorm4x8",
         "UnpackUnorm4x8", "UnpackDouble2x32", "Length", "Distance", "Cross", "Normalize",
         "FaceForward", "Reflect", "Refract", "FindILsb", "FindSMsb", "FindUMsb",
         "InterpolateAtCentroid", "InterpolateAtSample", "InterpolateAtOffset", "NMin", "NMax",
         "NClamp"])]
  | .compute =>
      [(0, ["acos", "acosh", "acospi", "asin", "asinh", "asinpi", "atan", "atan2", "atanh",
         "atanpi", "atan2pi", "cbrt", "ceil", "copysign", "cos", "cosh", "cospi", "erfc", "erf",
         "exp", "exp2", "exp10", "expm1", "fabs", "fdim", "floor", "fma", "fmax", "fmin", "fmod",
         "fract", "frexp", "hypot", "ilogb", "ldexp", "lgamma", "lgamma_r", "log", "log2",
         "log10", "log1p", "logb", "mad", "maxmag", "minmag", "modf", "nan", "nextafter", "pow",
         "pown", "powr", "remainder", "remquo", "rint", "rootn", "round", "rsqrt", "sin",
         "sincos", "sinh", "sinpi", "sqrt", "tan", "tanh", "tanpi", "tgamma", "trunc", "half_cos",
         "half_divide", "half_exp", "half_exp2", "half_exp10", "half_log", "half_log2",
         "half_log10", "half_powr", "half_recip", "half_rsqrt", "half_sin", "half_sqrt",
         "half_tan", "native_cos", "native_divide", "native_exp", "native_exp2", "native_exp10",
         "native_log", "native_log2", "native_log10", "native_powr", "native_recip",
         "native_rsqrt", "native_sin", "native_sqrt", "native_tan", "fclamp", "degrees",
         "fmax_common", "fmin_common", "mix", "radians", "step", "smoothstep", "sign", "cross",
         "distance", "length", "normalize", "fast_distance", "fast_length", "fast_normalize"]),
       (141, ["s_abs", "s_abs_diff", "s_add_sat", "u_add_sat", "s_hadd", "u_hadd", "s_rhadd",
         "u_rhadd", "s_clamp", "u_clamp", "clz", "ctz", "s_mad_hi", "u_mad_sat", "s_mad_sat",
         "s_max", "u_max", "s_min", "u_min", "s_mul_hi", "rotate", "s_sub_sat", "u_sub_sat",
         "u_upsample", "s_upsample", "popcount", "s_mad24", "u_mad24", "s_mul24", "u_mul24",
         "vloadn", "vstoren", "vload_half", "vload_halfn", "vstore_half", "vstore_half_r",
         "vstore_halfn", "vstore_halfn_r", "vloada_halfn", "vstorea_halfn", "vstorea_halfn_r",
         "shuffle", "shuffle2", "printf", "prefetch", "bitselect", "select"]),
       (201, ["u_abs", "u_abs_diff", "u_mul_hi", "u_mad_hi"])]

/-- The name of the instruction with this number. -/
def instructionName? (s : InstructionSet) (number : Word) : Option String :=
  s.blocks.findSome? fun b =>
    if b.1 ≤ number.toNat then b.2[number.toNat - b.1]? else none

end InstructionSet

end FrameShader
