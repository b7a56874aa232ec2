import InstallMatrix.Catalog.Basic

/-!
# `InstallMatrix.Catalog.Builtin`: the releases known without configuration

The releases the installer is expected to work on, and the catalogs made from
them.
-/

set_option autoImplicit false

namespace InstallMatrix.Catalog

/-- The packages a fresh image of a family lacks. -/
def bootstrap : PackageFamily → List String
  | .apt => ["unzip", "sudo", "ca-certificates"]
  | .yum => ["unzip", "sudo", "shadow-utils", "findutils"]
  | .apk => ["unzip", "sudo", "bash", "shadow"]

/-- A release whose base image is tagged with its version. -/
def release (name version : String) (family : PackageFamily)
    (architectures : List Architecture) (libcs : List Libc) : Release :=
  ⟨name, version, architectures, libcs, name ++ ":" ++ version, family, bootstrap family⟩

/-- The built-in releases. -/
def builtinReleases : List Release :=
  [ release "ubuntu" "24.04" .apt Architecture.all Libc.all,
    release "ubuntu" "22.04" .apt Architecture.all Libc.all,
    release "ubuntu" "20.04" .apt [.x86_64] Libc.all,
    release "debian" "12" .apt Architecture.all Libc.all,
    release "debian" "11" .apt [.x86_64] Libc.all,
    release "amazonlinux" "2023" .yum Architecture.all Libc.all,
    release "amazonlinux" "2" .yum [.x86_64] [.glibc],
    release "rockylinux" "9" .yum Architecture.all Libc.all,
    release "rockylinux" "8" .yum Architecture.all [.glibc],
    release "fedora" "39" .yum [.x86_64] Libc.all,
    release "fedora" "38" .yum [.x86_64] Libc.all,
    release "alpine" "3.19" .apk Architecture.all [.musl] ]

/-- The built-in catalog. -/
def builtin : Catalog := ⟨builtinReleases⟩

/-- The built-in releases followed by further ones. -/
def withExtra (extra : List Release) : Except CatalogError Catalog :=
  ofList (builtinReleases ++ extra)

end InstallMatrix.Catalog
