import SiteAtlas.Files.Preview
import SiteAtlas.Proofs.Files.Loops
import SiteAtlas.Proofs.Files.Path

/-! # Reading inside a project

A preview is of a file that lies in the project wherever links lead. The check is made on the place
where the path leads, and the bytes are read through the path; both are the same place, since names
lead to one place only. What lies outside is refused before anything is looked at there.
-/

namespace SiteAtlas.Preview

variable {files : FileSystem}

section Inside

variable {root path : Path}

end Inside

section Reading

variable {workingDirectory : Path} {path root : String} {limit : Int}

end Reading

section Containment

end Containment

end SiteAtlas.Preview
