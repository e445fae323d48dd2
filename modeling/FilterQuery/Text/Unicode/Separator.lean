import FilterQuery.Text.Unicode.Range

/-!
# Separators

The code points of each general category of this class, Unicode 17.0.
-/

namespace FilterQuery.Unicode

def spaceSeparator : Array Range :=
  #[⟨0x20, 0x20, 1⟩, ⟨0xA0, 0xA0, 1⟩, ⟨0x1680, 0x1680, 1⟩, ⟨0x2000, 0x200A, 1⟩,
    ⟨0x202F, 0x202F, 1⟩, ⟨0x205F, 0x205F, 1⟩, ⟨0x3000, 0x3000, 1⟩]

def lineSeparator : Array Range :=
  #[⟨0x2028, 0x2028, 1⟩]

def paragraphSeparator : Array Range :=
  #[⟨0x2029, 0x2029, 1⟩]

end FilterQuery.Unicode
