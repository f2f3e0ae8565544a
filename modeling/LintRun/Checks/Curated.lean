import LintRun.Checks.Catalog

/-!
# Checks — The curated catalog

The checks that every run applies: findings of the required ones must be fixed, findings of the optional ones
are advice.
-/

namespace LintRun.Catalog

def curatedRequired : List String :=
  ["bugprone-assert-side-effect",
    "bugprone-copy-constructor-init",
    "bugprone-infinite-loop",
    "bugprone-integer-division",
    "bugprone-macro-parentheses",
    "bugprone-macro-repeated-side-effects",
    "bugprone-move-forwarding-reference",
    "bugprone-multiple-statement-macro",
    "bugprone-reserved-identifier",
    "bugprone-sizeof-expression",
    "bugprone-string-integer-assignment",
    "bugprone-throw-keyword-missing",
    "bugprone-undefined-memory-manipulation",
    "bugprone-unhandled-self-assignment",
    "bugprone-unused-raii",
    "bugprone-unused-return-value",
    "bugprone-use-after-move",
    "cert-dcl58-cpp",
    "cert-env33-c",
    "cert-err34-c",
    "cert-err58-cpp",
    "cert-oop57-cpp",
    "cppcoreguidelines-init-variables",
    "cppcoreguidelines-interfaces-global-init",
    "cppcoreguidelines-macro-usage",
    "cppcoreguidelines-narrowing-conversions",
    "cppcoreguidelines-no-malloc",
    "cppcoreguidelines-pro-bounds-constant-array-index",
    "cppcoreguidelines-pro-bounds-pointer-arithmetic",
    "cppcoreguidelines-pro-type-const-cast",
    "cppcoreguidelines-pro-type-cstyle-cast",
    "cppcoreguidelines-pro-type-reinterpret-cast",
    "cppcoreguidelines-pro-type-static-cast-downcast",
    "cppcoreguidelines-slicing",
    "cppcoreguidelines-special-member-functions",
    "fuchsia-trailing-return",
    "fuchsia-virtual-inheritance",
    "google-default-arguments",
    "google-global-names-in-headers",
    "misc-definitions-in-headers",
    "misc-misplaced-const",
    "misc-non-private-member-variables-in-classes",
    "misc-throw-by-value-catch-by-reference",
    "misc-uniqueptr-reset-release",
    "misc-unused-alias-decls",
    "misc-unused-using-decls",
    "modernize-avoid-bind",
    "modernize-avoid-c-arrays",
    "modernize-concat-nested-namespaces",
    "modernize-deprecated-headers",
    "modernize-deprecated-ios-base-aliases",
    "modernize-shrink-to-fit",
    "modernize-use-auto",
    "modernize-use-bool-literals",
    "modernize-use-nullptr",
    "performance-for-range-copy",
    "performance-implicit-conversion-in-loop",
    "performance-inefficient-algorithm",
    "performance-inefficient-string-concatenation",
    "performance-inefficient-vector-operation",
    "performance-move-const-arg",
    "performance-move-constructor-init",
    "performance-unnecessary-copy-initialization",
    "performance-unnecessary-value-param",
    "readability-avoid-const-params-in-decls",
    "readability-const-return-type",
    "readability-container-size-empty",
    "readability-deleted-default",
    "readability-implicit-bool-conversion",
    "readability-redundant-access-specifiers",
    "readability-redundant-control-flow",
    "readability-redundant-preprocessor",
    "readability-redundant-smartptr-get",
    "readability-static-definition-in-anonymous-namespace",
    "readability-uniqueptr-delete-release"]

def curatedOptional : List String :=
  ["bugprone-dynamic-static-initializers",
    "bugprone-exception-escape",
    "bugprone-fold-init-type",
    "bugprone-forward-declaration-namespace",
    "bugprone-forwarding-reference-overload",
    "bugprone-incorrect-roundings",
    "bugprone-misplaced-widening-cast",
    "bugprone-parent-virtual-call",
    "bugprone-spuriously-wake-up-functions",
    "bugprone-suspicious-include",
    "bugprone-suspicious-memset-usage",
    "bugprone-too-small-loop-variable",
    "bugprone-undelegated-constructor",
    "cert-err60-cpp",
    "cert-mem57-cpp",
    "cert-msc50-cpp",
    "cert-msc51-cpp",
    "google-readability-casting",
    "google-readability-todo",
    "google-runtime-int",
    "google-runtime-operator",
    "hicpp-exception-baseclass",
    "hicpp-multiway-paths-covered",
    "misc-no-recursion",
    "misc-unconventional-assign-operator",
    "misc-unused-parameters",
    "modernize-make-shared",
    "modernize-make-unique",
    "modernize-use-default-member-init",
    "modernize-use-emplace",
    "modernize-use-nodiscard",
    "modernize-use-uncaught-exceptions",
    "performance-type-promotion-in-math-fn",
    "readability-delete-null-pointer",
    "readability-function-size",
    "readability-identifier-naming",
    "readability-inconsistent-declaration-parameter-name",
    "readability-isolate-declaration"]

/-- The catalog that a configuration extends. -/
def curated : Catalog := ⟨curatedRequired.map .plain, curatedOptional.map .plain⟩

end LintRun.Catalog
